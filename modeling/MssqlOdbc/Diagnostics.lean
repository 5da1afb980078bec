import MssqlOdbc.Describe
import MssqlOdbc.Migration
import MssqlOdbc.Row

/-!
# Where errors come from

An error of a command is the diagnostics of a call that failed, with a context put in front of the
message, or it is the driver's own.  The calls are those made for the very command: the calls on the
connection, the statements the command has the server answer, and the preparation of its statement.
Only what was said about a prepared statement may be older than the command.

`errors_blamed` says so for every command of every run, for what is sent back and for what is
streamed: no error is made up, none is carried over from another command, and the SQLSTATE is the
one of the call.
-/

set_option autoImplicit false

namespace MssqlOdbc

open TxStore

variable {C κ A V : Type}

/-! ## What is reported -/

inductive Metadata.Reports (metadata : Metadata) : OdbcError → Prop
  | columnCount {e : OdbcError} (h : metadata.numColsError = some e) : Reports metadata e
  | column {e : OdbcError} (h : .error e ∈ metadata.columns) : Reports metadata e

inductive PreparedInfo.Reports (info : PreparedInfo) : OdbcError → Prop
  | metadata {e : OdbcError} (h : info.toMetadata.Reports e) : Reports info e
  | parameterCount {e : OdbcError} (h : info.numParams = .error e) : Reports info e

section Results

variable (R : κ → OdbcError → Prop)

/-- An error of one of the calls on a result; `R` says which errors a cell is fetched with. -/
inductive Result.Reports (result : Result κ) : OdbcError → Prop
  | metadata {e : OdbcError} (h : result.toMetadata.Reports e) : Reports result e
  | rowCount {e : OdbcError} (h : result.rowCount = .error e) : Reports result e
  | bind {e : OdbcError} (h : result.bindError = some e) : Reports result e
  | fetch {e : OdbcError} (h : result.fetchError = some e) : Reports result e
  | unbind {e : OdbcError} (h : result.unbindError = some e) : Reports result e
  | cell {e : OdbcError} {cells : ℕ → κ} (hcells : cells ∈ result.rowsets.flatten) (j : ℕ)
      (h : R (cells j) e) : Reports result e

inductive Reply.Reports : Reply κ → OdbcError → Prop
  | result {e : OdbcError} {info : Bool} {result : Result κ} (h : result.Reports R e) :
      Reports (.result info result) e
  | failed (e : OdbcError) : Reports (.failed (.error e)) e

/-- An error of the execution or of what is behind it. -/
inductive Batch.Reports (batch : Batch κ) : OdbcError → Prop
  | execution {e : OdbcError} (h : batch.head = .error e) : Reports batch e
  | first {e : OdbcError} {result : Result κ} (h : batch.head = .ok result)
      (he : result.Reports R e) : Reports batch e
  | reply {e : OdbcError} {reply : Reply κ} (h : reply ∈ batch.rest) (he : reply.Reports R e) :
      Reports batch e

end Results

/-- The calls on the connection whose failure a command reports. -/
def Command.faults (f : Faults) : Command A → List (Option OdbcError)
  | .execute _ _ _ => [f.preallocate]
  | .begin => [f.setAutocommit false, f.transactionSql]
  | .commit => [f.commit, f.setAutocommit true]
  | .rollback => [f.rollback, f.setAutocommit true, f.transactionSql]
  | .applyMigration _ _ _ _ | .revertMigration _ _ _ _ =>
    [f.setAutocommit false, f.preallocate, f.commit, f.setAutocommit true]
  | _ => []

/-- The error is about a call that `D` knows, or about no call at all. -/
inductive Error.Blames (D : OdbcError → Prop) : Error → Prop
  | call {e : OdbcError} (context : String) (h : D e) : Blames D (databaseError context e)
  | own (message : String) : Blames D (.protocol message)

theorem Error.Blames.mono {D D' : OdbcError → Prop} (h : ∀ e, D e → D' e) {error : Error}
    (hblames : error.Blames D) : error.Blames D' := by
  cases hblames with
  | call context he => exact .call context (h _ he)
  | own message => exact .own message

/-- `R` is what the conversions of a cell fail with. -/
structure Env.ReadsCells (E : Env C κ A V) (R : κ → OdbcError → Prop) : Prop where
  fetchValue : ∀ column cell e, E.fetchValue column cell = .error e → e.Blames (R cell)
  getI64 : ∀ cell e, E.getI64 cell = .error e → R cell e
  getBinary : ∀ cell e, E.getBinary cell = .error e → R cell e

/-! ## Metadata -/

theorem collectColumns_blames {metadata : Metadata} {e : Error}
    (h : collectColumns metadata = .error e) : e.Blames metadata.Reports := by
  rw [collectColumns] at h
  cases hcount : metadata.numColsError with
  | some e' =>
    rw [Metadata.numResultCols, hcount] at h
    cases h
    exact .call _ (.columnCount hcount)
  | none =>
    rw [Metadata.numResultCols, hcount] at h
    obtain ⟨⟨description, i⟩, hp, hcolumn⟩ := exists_of_mapM_error h
    dsimp only [collectColumn] at hcolumn
    split at hcolumn
    · cases hcolumn
      exact .own _
    · split at hcolumn
      · cases hcolumn
        exact .call _ (.column (List.fst_mem_of_mem_zipIdx hp))
      · cases hcolumn

theorem describePrepared_blames {sql : String} {info : PreparedInfo} {e : Error}
    (h : describePrepared sql info = .error e) : e.Blames info.Reports := by
  rw [describePrepared] at h
  cases hparams : collectParamTypes info with
  | error e' =>
    rw [hparams] at h
    cases h
    rw [collectParamTypes] at hparams
    split at hparams
    · rename_i hcount
      cases hparams
      exact .call _ (.parameterCount hcount)
    · cases hparams
    · split at hparams
      · cases hparams
      · cases hparams
  | ok parameters =>
    rw [hparams] at h
    cases hcolumns : collectColumns info.toMetadata with
    | error e' =>
      have hprepared : collectPreparedColumns info.toMetadata = .error e' := hcolumns
      simp only [hprepared] at h
      cases h
      exact (collectColumns_blames hcolumns).mono fun _ ↦ .metadata
    | ok columns =>
      have hprepared : collectPreparedColumns info.toMetadata = .ok columns := hcolumns
      simp only [hprepared] at h
      cases h

/-! ## Streams -/

section Streams

variable {E : Env C κ A V} {R : κ → OdbcError → Prop} {settings : MssqlBufferSettings}

theorem unbufferedReading_blames (hE : E.ReadsCells R) {result : Result κ} {e : Error}
    (h : (unbufferedReading E result).rows.error = some e) : e.Blames (result.Reports R) := by
  rw [unbufferedReading] at h
  dsimp only at h
  cases hcolumns : collectColumns result.toMetadata with
  | error e' =>
    rw [hcolumns] at h
    cases h
    exact (collectColumns_blames hcolumns).mono fun _ ↦ .metadata
  | ok columns =>
    rw [hcolumns] at h
    obtain h | h := ErrStream.error_of_append h
    · obtain ⟨s, hs, herror⟩ := ErrStream.error_of_concat h
      obtain ⟨cells, hcells, rfl⟩ := List.mem_map.1 hs
      cases hvalues : fetchValues E columns cells with
      | ok values =>
        rw [fetchRow, hvalues] at herror
        cases herror
      | error e' =>
        rw [fetchRow, hvalues] at herror
        cases herror
        obtain ⟨column, -, hcolumn⟩ := exists_of_mapM_error hvalues
        split at hcolumn
        · cases hcolumn
          exact .own _
        · exact (hE.fetchValue column _ e hcolumn).mono fun _ ↦ .cell hcells _
    · obtain ⟨e', hfetch, rfl⟩ := Option.map_eq_some_iff.1 h
      exact .call _ (.fetch hfetch)

theorem conversions_blames {bindings : List ColumnBinding} {D : OdbcError → Prop} {e : Error}
    (h : conversions E bindings = .error e) : e.Blames D := by
  induction bindings with
  | nil => cases h
  | cons binding bindings ih =>
    rw [conversions] at h
    cases hcolumn : E.bufferedColumn binding with
    | error e' =>
      rw [hcolumn] at h
      cases h
      exact .own _
    | ok convert =>
      cases hrest : conversions E bindings with
      | error e' =>
        rw [hcolumn, hrest] at h
        cases h
        exact ih hrest
      | ok converts =>
        rw [hcolumn, hrest] at h
        cases h

theorem bufferedReading_blames {result : Result κ} {batchSize maxColumnSize : ℕ} {e : Error}
    (h : (bufferedReading E result batchSize maxColumnSize).rows.error = some e) :
    e.Blames (result.Reports R) := by
  rw [bufferedReading] at h
  dsimp only at h
  cases hbindings : buildBufferBindings result.toMetadata maxColumnSize with
  | error e' =>
    rw [hbindings] at h
    cases h
    cases hcolumns : collectColumns result.toMetadata with
    | error e' =>
      rw [buildBufferBindings, hcolumns] at hbindings
      cases hbindings
      exact (collectColumns_blames hcolumns).mono fun _ ↦ .metadata
    | ok columns =>
      rw [buildBufferBindings, hcolumns] at hbindings
      cases hbindings
  | ok bindings =>
    rw [hbindings] at h
    obtain h | h := ErrStream.error_of_append h
    · obtain ⟨e', hbind, rfl⟩ := Option.map_eq_some_iff.1 h
      exact .call _ (.bind hbind)
    obtain h | h := ErrStream.error_of_append h
    · obtain ⟨s, hs, herror⟩ := ErrStream.error_of_concat h
      obtain ⟨rowset, -, rfl⟩ := List.mem_map.1 hs
      rw [rowsetStream] at herror
      cases hconverts : conversions E bindings with
      | error e' =>
        rw [hconverts] at herror
        cases herror
        exact conversions_blames hconverts
      | ok converts =>
        rw [hconverts] at herror
        cases herror
    · obtain ⟨e', hfetch, rfl⟩ := Option.map_eq_some_iff.1 h
      exact .call _ (.fetch hfetch)

theorem Result.reading_blames (hE : E.ReadsCells R) {result : Result κ} {e : Error}
    (h : (result.reading E settings).stream.error = some e) : e.Blames (result.Reports R) := by
  rw [Result.reading] at h
  split at h
  · obtain h | h := ErrStream.error_of_append h
    · exact bufferedReading_blames h
    obtain h | h := ErrStream.error_of_append h
    · cases h
    · obtain ⟨e', hunbind, rfl⟩ := Option.map_eq_some_iff.1 h
      exact .call _ (.unbind hunbind)
  · obtain h | h := ErrStream.error_of_append h
    · exact unbufferedReading_blames hE h
    obtain h | h := ErrStream.error_of_append h
    · cases h
    · cases h

theorem Result.stream_blames (hE : E.ReadsCells R) {result : Result κ} {e : Error}
    (h : (result.stream E settings).error = some e) : e.Blames (result.Reports R) := by
  rw [Result.stream] at h
  cases hcols : result.numColsError with
  | some e' =>
    rw [Result.numResultCols_of_some hcols] at h
    cases h
    exact .call _ (.metadata (.columnCount hcols))
  | none =>
    rw [Result.numResultCols_of_none hcols] at h
    split at h
    · rename_i heq
      cases heq
    · cases hcount : result.rowCount with
      | error e' =>
        simp only [hcount] at h
        cases h
        exact .call _ (.rowCount hcount)
      | ok rowsAffected =>
        simp only [hcount] at h
        cases h
    · exact reading_blames hE h

theorem statementError_blames {D : OdbcError → Prop} {status : SqlResult Unit} {context : String}
    (h : ∀ e, status = .error e → D e) : (statementError status context).Blames D := by
  cases status with
  | error e => exact .call _ (h e rfl)
  | _ => exact .own _

/-- An advance fails with an error the result still had to report, or with that of the next
reply. -/
theorem advanceError_blames {result : Result κ} {unread : List (Reply κ)} {e : Error}
    (h : advanceError result unread = some e) :
    e.Blames fun e' ↦ result.Reports R e' ∨ ∃ reply ∈ unread, reply.Reports R e' := by
  cases hfetch : result.fetchError with
  | some e' =>
    rw [advanceError_fetch hfetch] at h
    cases h
    exact statementError_blames (by rintro _ ⟨⟩; exact Or.inl (.fetch hfetch))
  | none =>
    cases unread with
    | nil =>
      rw [advanceError_nil hfetch] at h
      cases h
    | cons reply unread =>
      cases reply with
      | result info next =>
        rw [advanceError_result hfetch] at h
        cases h
      | failed failure =>
        rw [advanceError_failed hfetch] at h
        cases h
        refine statementError_blames fun e' he ↦ Or.inr ⟨_, List.mem_cons_self, ?_⟩
        cases failure with
        | error e =>
          cases he
          exact .failed e'
        | _ => cases he

/-- What is visited are results of the batch, and so are the errors of the advances. -/
theorem visits_blames (result : Result κ) (unread : List (Reply κ)) :
    ∀ visit ∈ visits result unread,
      (visit.1 = result ∨ ∃ info, .result info visit.1 ∈ unread) ∧ ∀ e, visit.2 = some e →
        e.Blames fun e' ↦ result.Reports R e' ∨ ∃ reply ∈ unread, reply.Reports R e' := by
  induction unread generalizing result with
  | nil =>
    intro visit hvisit
    obtain rfl := List.mem_singleton.1 hvisit
    exact ⟨Or.inl rfl, fun e he ↦ advanceError_blames he⟩
  | cons reply unread ih =>
    intro visit hvisit
    cases reply with
    | failed failure =>
      obtain rfl := List.mem_singleton.1 hvisit
      exact ⟨Or.inl rfl, fun e he ↦ advanceError_blames he⟩
    | result info next =>
      cases hadvance : advanceError result (.result info next :: unread) with
      | some e =>
        rw [visits_of_advanceError hadvance] at hvisit
        obtain rfl := List.mem_singleton.1 hvisit
        exact ⟨Or.inl rfl, by rintro _ ⟨⟩; exact advanceError_blames hadvance⟩
      | none =>
        rw [visits_result hadvance] at hvisit
        obtain rfl | hvisit := List.mem_cons.1 hvisit
        · exact ⟨Or.inl rfl, by rintro _ ⟨⟩⟩
        obtain ⟨hresult, hblames⟩ := ih next visit hvisit
        refine ⟨Or.inr ?_, fun e he ↦ (hblames e he).mono ?_⟩
        · obtain hresult | ⟨info', hmem⟩ := hresult
          · exact ⟨info, by rw [hresult]; exact List.mem_cons_self⟩
          · exact ⟨info', List.mem_cons_of_mem _ hmem⟩
        · rintro e' (he' | ⟨reply, hreply, he'⟩)
          · exact Or.inr ⟨_, List.mem_cons_self, .result he'⟩
          · exact Or.inr ⟨reply, List.mem_cons_of_mem _ hreply, he'⟩

/-- **The error of a stream is one of the batch.** -/
theorem Batch.stream_blames (hE : E.ReadsCells R) {batch : Batch κ} {context : String} {e : Error}
    (h : (batch.stream E settings context).error = some e) : e.Blames (batch.Reports R) := by
  rw [Batch.stream, Batch.first] at h
  cases hhead : batch.head with
  | error e' =>
    rw [hhead] at h
    cases h
    exact .call _ (.execution hhead)
  | ok result =>
    cases hcols : result.numColsError with
    | some e' =>
      simp only [hhead, bind, Except.bind, hcols] at h
      cases h
      exact .call _ (.first hhead (.metadata (.columnCount hcols)))
    | none =>
      simp only [hhead, bind, Except.bind, hcols] at h
      obtain ⟨s, hs, herror⟩ := ErrStream.error_of_concat h
      obtain ⟨visit, hvisit, rfl⟩ := List.mem_map.1 hs
      obtain ⟨hresult, hadvance⟩ := visits_blames (R := R) result batch.rest visit hvisit
      obtain herror | herror := ErrStream.error_of_append herror
      · refine (Result.stream_blames hE herror).mono fun e' he' ↦ ?_
        obtain hresult | ⟨info, hmem⟩ := hresult
        · exact .first hhead (hresult ▸ he')
        · exact .reply hmem (.result he')
      · refine (hadvance e herror).mono ?_
        rintro e' (he' | ⟨reply, hreply, he'⟩)
        · exact .first hhead he'
        · exact .reply hreply he'

end Streams

/-! ## Handlers -/

section Handlers

open Proc

variable {E : Env C κ A V} {R : κ → OdbcError → Prop} {D : OdbcError → Prop} {f : Faults}
  {s : Session E}

theorem lock_raises (message : String) : Raises (Error.Blames D) (lock E f message) s := by
  rw [lock]
  split
  · exact .fail (.own _)
  · exact .pure ()

/-- A lock that succeeds changes nothing. -/
theorem of_lock_ok {message : String} {s' : Session E}
    (h : lock E f message s = (.ok (), s')) : s' = s := by
  rw [lock] at h
  split at h
  · cases h
  · cases h
    rfl

theorem connectionCall_raises {fault : Option OdbcError} {effect : Connection C → Connection C}
    {context : String} (hD : ∀ e, fault = some e → D e) :
    Raises (Error.Blames D)
      ((connectionCall E fault effect).mapError (databaseError context)) s := by
  refine .mapError ?_
  cases fault with
  | some e => exact .fail (.call _ (hD e rfl))
  | none => exact .modify _

theorem savepointStatement_raises {sql : Sql} {effect : Connection C → Option (Connection C)}
    {context : String} (hD : ∀ e, f.transactionSql = some e → D e) (hrefusal : D (E.refusal sql)) :
    Raises (Error.Blames D)
      ((savepointStatement E f sql effect).mapError (databaseError context)) s := by
  refine .mapError (.bind (.modify _) fun _ s₁ _ ↦ ?_)
  cases hsql : f.transactionSql with
  | some e => exact .fail (.call _ (hD e hsql))
  | none =>
    refine .get_bind ?_
    cases effect s₁.actor.conn with
    | some conn => exact .bind (.modify _) fun _ _ _ ↦ .pure _
    | none => exact .fail (.call _ hrefusal)

/-! ### Transactions -/

theorem handleBegin_raises
    (hf : ∀ e, some e ∈ [f.setAutocommit false, f.transactionSql] → D e)
    (hrefusal : D (E.refusal (.saveTransaction (savepointName s.actor.transactionDepth)))) :
    Raises (Error.Blames D) (handleBegin E f) s := by
  refine .get_bind ?_
  dsimp only
  split
  · refine .bind (lock_raises _) fun _ _ _ ↦ ?_
    refine .bind (connectionCall_raises fun e he ↦ hf e (by simp [he])) fun _ _ _ ↦ ?_
    exact .modify _
  · refine .bind (lock_raises _) fun _ _ _ ↦ .bind ?_ fun _ _ _ ↦ .modify _
    exact savepointStatement_raises (fun e he ↦ hf e (by simp [he])) hrefusal

theorem handleCommit_raises (hf : ∀ e, some e ∈ [f.commit, f.setAutocommit true] → D e) :
    Raises (Error.Blames D) (handleCommit E f) s := by
  refine .get_bind ?_
  dsimp only
  split
  · exact .pure ()
  split
  · refine .bind (lock_raises _) fun _ _ _ ↦ ?_
    refine .bind (connectionCall_raises fun e he ↦ hf e (by simp [he])) fun _ _ _ ↦ ?_
    refine .bind (connectionCall_raises fun e he ↦ hf e (by simp [he])) fun _ _ _ ↦ ?_
    exact .modify _
  · exact .modify _

theorem handleRollback_raises
    (hf : ∀ e, some e ∈ [f.rollback, f.setAutocommit true, f.transactionSql] → D e)
    (hrefusal :
      D (E.refusal (.rollbackTransaction (savepointName (s.actor.transactionDepth - 1))))) :
    Raises (Error.Blames D) (handleRollback E f) s := by
  refine .get_bind ?_
  dsimp only
  split
  · exact .pure ()
  split
  · refine .bind (lock_raises _) fun _ _ _ ↦ ?_
    refine .bind (connectionCall_raises fun e he ↦ hf e (by simp [he])) fun _ _ _ ↦ ?_
    refine .bind (connectionCall_raises fun e he ↦ hf e (by simp [he])) fun _ _ _ ↦ ?_
    exact .modify _
  · refine .bind (lock_raises _) fun _ _ _ ↦ .bind ?_ fun _ _ _ ↦ .modify _
    exact savepointStatement_raises (fun e he ↦ hf e (by simp [he])) hrefusal

/-! ### Single statements -/

/-- What the execution of a batch fails with. -/
theorem Batch.reports_of_executed {batch : Batch κ} {e : OdbcError}
    (h : batch.executed.1 = .error e) : batch.Reports R e := by
  rw [Batch.executed] at h
  cases hhead : batch.head with
  | error e' =>
    rw [hhead] at h
    cases h
    exact .execution hhead
  | ok result =>
    cases hcols : result.numColsError with
    | some e' =>
      simp only [hhead, Result.numResultCols_of_some hcols] at h
      cases h
      exact .first hhead (.metadata (.columnCount hcols))
    | none =>
      simp only [hhead, Result.numResultCols_of_none hcols] at h
      split at h
      · rename_i heq
        cases heq
      · cases h
      · cases h

/-- The cursor of a batch is on its first result. -/
theorem Batch.head_of_executed {batch : Batch κ} {cursor : CursorImpl κ}
    (h : batch.executed.1 = .ok (some cursor)) : batch.head = .ok cursor.stmt.result := by
  rw [Batch.executed] at h
  cases hhead : batch.head with
  | error e =>
    rw [hhead] at h
    cases h
  | ok result =>
    simp only [hhead] at h
    split at h
    · cases h
    · cases h
    · cases h
      rfl

theorem executeOnConnection_raises {sql context : String}
    (hD : ∀ e, (E.exec sql [] s.actor.conn.working).1.Reports R e → D e) :
    Raises (Error.Blames D)
      ((executeOnConnection E f (.text sql)).mapError (databaseError context)) s := by
  refine .mapError fun e he ↦ .call _ (hD e (Batch.reports_of_executed ?_))
  rw [executeOnConnection_text] at he
  exact he

/-- A handler that locks the connection, runs one statement and then looks at the answer. -/
theorem singleStatement_raises {α : Type} {message sql context : String}
    {k : Option (CursorImpl κ) → Handler E α}
    (hD : ∀ e, (E.exec sql [] s.actor.conn.working).1.Reports R e → D e)
    (hk : ∀ c s', (E.exec sql [] s.actor.conn.working).1.executed.1 = .ok c →
      Raises (Error.Blames D) (k c) s') :
    Raises (Error.Blames D) (do
      lock E f message
      let c ← (executeOnConnection E f (.text sql)).mapError (databaseError context)
      k c : Handler E α) s := by
  refine .bind (lock_raises _) fun _ s₁ hlock ↦ ?_
  obtain rfl := of_lock_ok hlock
  refine .bind (executeOnConnection_raises hD) fun c s₂ hexecuted ↦ hk c s₂ ?_
  have hexecuted := Proc.mapError_ok hexecuted
  rw [executeOnConnection_text] at hexecuted
  exact (Prod.mk.inj hexecuted).1

theorem scalarOfCursor_blames (hE : E.ReadsCells R) {batch : Batch κ} {cursor : CursorImpl κ}
    (hcursor : batch.executed.1 = .ok (some cursor)) {e : Error}
    (h : scalarOfCursor E cursor = .error e) : e.Blames (batch.Reports R) := by
  have hhead := Batch.head_of_executed hcursor
  rw [scalarOfCursor] at h
  split at h
  · rename_i e' hrows
    cases h
    exact .call _ (.first hhead (.fetch (congrArg Prod.snd hrows)))
  · cases h
  · rename_i row rows fetchError hrows
    have hmem : row ∈ cursor.stmt.result.rowsets.flatten := by
      have hrows : cursor.stmt.result.rowsets.flatten = row :: rows := congrArg Prod.fst hrows
      rw [hrows]
      exact List.mem_cons_self
    cases hcell : E.getI64 (row 0) with
    | ok n =>
      rw [hcell] at h
      cases h
    | error e' =>
      rw [hcell] at h
      cases h
      exact .call _ (.first hhead (.cell hmem 0 (hE.getI64 _ _ hcell)))

theorem migrationsOfRows_blames (hE : E.ReadsCells R) {result : Result κ}
    {rows : List (ℕ → κ)} (hrows : ∀ row ∈ rows, row ∈ result.rowsets.flatten) {e : Error}
    (h : migrationsOfRows E result.fetchError rows = .error e) : e.Blames (result.Reports R) := by
  induction rows with
  | nil =>
    cases hfetch : result.fetchError with
    | some e' =>
      rw [hfetch] at h
      cases h
      exact .call _ (.fetch hfetch)
    | none =>
      rw [hfetch] at h
      cases h
  | cons row rows ih =>
    obtain ⟨hrow, hrows⟩ := List.forall_mem_cons.1 hrows
    rw [migrationsOfRows, migrationOfRow] at h
    cases hversion : E.getI64 (row 0) with
    | error e' =>
      rw [hversion] at h
      cases h
      exact .call _ (.cell hrow 0 (hE.getI64 _ _ hversion))
    | ok version =>
      cases hchecksum : E.getBinary (row 1) with
      | error e' =>
        rw [hversion, hchecksum] at h
        cases h
        exact .call _ (.cell hrow 1 (hE.getBinary _ _ hchecksum))
      | ok checksum =>
        cases hrest : migrationsOfRows E result.fetchError rows with
        | error e' =>
          rw [hversion, hchecksum, hrest] at h
          cases h
          exact ih hrows hrest
        | ok migrations =>
          rw [hversion, hchecksum, hrest] at h
          cases h

/-! ### Migrations -/

/-- Stepping through a batch fails with what the handle still has to report. -/
theorem drainResultSets_blames (stmt : StmtHandle κ) (wire : Wire A V) {e : Error}
    (h : (drainResultSets stmt wire).outcome = .error e) :
    e.Blames fun e' ↦ stmt.result.fetchError = some e' ∨
      ∃ reply ∈ stmt.unread, reply.Reports R e' := by
  induction hn : stmt.unread.length using Nat.strongRecOn generalizing stmt wire with
  | ind n ih =>
  -- an advance that succeeds lands on the next reply, and what that has to report it has reported
  have hnext {info : Bool} {result : Result κ} {rest : List (Reply κ)} {wire : Wire A V}
      (hunread : stmt.unread = .result info result :: rest)
      (h : (drainResultSets ⟨some result, rest⟩ wire).outcome = .error e) :
      e.Blames fun e' ↦ stmt.result.fetchError = some e' ∨
        ∃ reply ∈ stmt.unread, reply.Reports R e' := by
    have hlt : rest.length < n := by
      rw [← hn, hunread]
      exact Nat.lt_succ_self _
    refine (ih _ hlt ⟨some result, rest⟩ wire h rfl).mono ?_
    rw [hunread]
    rintro e' (hfetch | ⟨reply, hreply, he'⟩)
    · exact Or.inr ⟨_, List.mem_cons_self, .result (.fetch hfetch)⟩
    · exact Or.inr ⟨reply, List.mem_cons_of_mem _ hreply, he'⟩
  rw [drainResultSets_eq, StmtHandle.moreResults] at h
  cases hfetch : stmt.result.fetchError with
  | some e' =>
    simp only [hfetch] at h
    cases h
    exact statementError_blames (by rintro _ ⟨⟩; exact Or.inl rfl)
  | none =>
    rw [hfetch] at hnext
    cases hunread : stmt.unread with
    | nil =>
      simp only [hfetch, hunread] at h
      cases h
    | cons reply rest =>
      rw [hunread] at hnext
      cases reply with
      | result info result =>
        cases info with
        | false =>
          simp only [hfetch, hunread] at h
          exact hnext rfl h
        | true =>
          simp only [hfetch, hunread] at h
          exact hnext rfl h
      | failed failure =>
        have hfailed {status : SqlResult Unit} (hstatus : failure.toSqlResult = status) :
            (statementError status "failed to advance ODBC result set").Blames fun e' ↦
              (none : Option OdbcError) = some e' ∨
                ∃ reply ∈ Reply.failed failure :: rest, reply.Reports R e' := by
          refine statementError_blames fun e' he ↦ Or.inr ⟨_, List.mem_cons_self, ?_⟩
          cases failure with
          | error e =>
            rw [he] at hstatus
            cases hstatus
            exact .failed e'
          | _ =>
            rw [he] at hstatus
            cases hstatus
        cases failure <;>
          (simp only [hfetch, hunread, AdvanceFailure.toSqlResult] at h; cases h; exact hfailed rfl)

theorem migrationBatch_raises {texts : MigrationTexts} {sql : String}
    (hf : ∀ e, f.preallocate = some e → D e)
    (hD : ∀ e, (E.exec sql [] s.actor.conn.working).1.Reports R e → D e) :
    Raises (Error.Blames D) (migrationBatch E f texts sql) s := by
  intro e he
  cases hpre : f.preallocate with
  | some e' =>
    rw [migrationBatch_unallocated hpre] at he
    cases he
    exact .call _ (hf e' hpre)
  | none =>
    rw [migrationBatch, Proc.bind_of_ok (a := ()) (t := s) (by rw [preallocate, hpre]; rfl),
      Proc.bind_of_ok executeStatement_apply] at he
    rcases hexecuted : (E.exec sql [] s.actor.conn.working).1.executed with ⟨e' | cursor, stmt⟩
    · rw [hexecuted] at he
      cases he
      exact .call _ (hD e' (Batch.reports_of_executed (congrArg Prod.fst hexecuted)))
    · obtain ⟨result, hhead, -, hbare⟩ := Batch.executed_ok hexecuted
      rw [hexecuted] at he
      have hdrain : (drainResultSets (bareHandle cursor stmt) (s.execute sql []).wire).outcome =
        .error e := he
      rw [hbare] at hdrain
      refine (drainResultSets_blames (R := R) _ _ hdrain).mono ?_
      rintro e' (hfetch | ⟨reply, hreply, he'⟩)
      · exact hD e' (.first hhead (.fetch hfetch))
      · exact hD e' (.reply hreply he')

/-- The tracking statement is answered on what the batch has left. -/
theorem runMigration_raises {texts : MigrationTexts} {sql trackingSql : String} {noTx : Bool}
    (hf : ∀ e, some e ∈ [f.setAutocommit false, f.preallocate, f.commit, f.setAutocommit true] →
      D e)
    (hD : ∀ e, (E.exec sql [] s.actor.conn.working).1.Reports R e → D e)
    (htrack : ∀ e, (E.exec trackingSql [] (E.exec sql [] s.actor.conn.working).2).1.Reports R e →
      D e) :
    Raises (Error.Blames D) (runMigration E f texts sql trackingSql noTx) s := by
  refine .bind (lock_raises _) fun _ s₁ hlock ↦ ?_
  obtain rfl := of_lock_ok hlock
  refine .bind (.skipIf noTx fun _ ↦ connectionCall_raises fun e he ↦ hf e (by simp [he]))
    fun _ s₂ hstart ↦ .attempt_bind ?_
  have hworking : s₂.actor.conn.working = s₁.actor.conn.working := by
    cases noTx with
    | true =>
      cases hstart
      rfl
    | false =>
      have hstart := Proc.mapError_ok hstart
      rw [setAutocommit] at hstart
      cases hauto : f.setAutocommit false with
      | some e =>
        rw [hauto] at hstart
        cases hstart
      | none =>
        rw [hauto] at hstart
        cases hstart
        exact Store.working_setAutocommit_false _
  rw [← hworking] at hD htrack
  rcases hbatch : migrationBatch E f texts sql s₂ with ⟨e | _, s₃⟩
  · refine .bind (.skipIf noTx fun _ ↦ .bind (.ignore _) fun _ _ _ ↦ .ignore _) fun _ _ _ ↦ ?_
    have hpre (e : OdbcError) (he : f.preallocate = some e) : D e := hf e (by simp [he])
    exact .fail (migrationBatch_raises hpre hD e (congrArg Prod.fst hbatch))
  · have hleft : s₃.actor.conn.working = (E.exec sql [] s₂.actor.conn.working).2 := by
      obtain ⟨e, he, -⟩ | ⟨-, ⟨-, e, statuses, -, he, -⟩ | ⟨-, -, rfl⟩⟩ :=
        migrationBatch_cases hbatch
      · cases he
      · cases he
      · exact Store.working_write _ _
    rw [← hleft] at htrack
    refine .bind (executeOnConnection_raises htrack) fun _ _ _ ↦ .skipIf noTx fun _ ↦ ?_
    refine .bind (connectionCall_raises fun e he ↦ hf e (by simp [he])) fun _ _ _ ↦ ?_
    exact connectionCall_raises fun e he ↦ hf e (by simp [he])

/-! ### Prepared statements -/

/-- An answer from the cache is about what the statement was prepared with. -/
theorem handlePrepare_raises {sql : String}
    (hprepare : ∀ e, E.prepare sql s.actor.conn.working = .error e → D e)
    (hinfo : ∀ info, E.prepare sql s.actor.conn.working = .ok info → ∀ e, info.Reports e → D e)
    (hcache : ∀ prepared, E.cache.get s.actor.stmtCache sql = some prepared →
      ∀ e, prepared.info.Reports e → D e) :
    Raises (Error.Blames D) (handlePrepare E sql) s := by
  intro e he
  rw [handlePrepare_apply] at he
  cases hget : E.cache.get s.actor.stmtCache sql with
  | some prepared =>
    rw [hget] at he
    exact (describePrepared_blames he).mono (hcache prepared hget)
  | none =>
    rw [hget] at he
    cases hprepared : E.prepare sql s.actor.conn.working with
    | error e' =>
      rw [hprepared] at he
      cases he
      exact .call _ (hprepare e' hprepared)
    | ok info =>
      rw [hprepared] at he
      exact (describePrepared_blames he).mono (hinfo info hprepared)

/-- What keeps a statement from being executed. -/
theorem handleExecute_unexecuted {sql : String} {arguments : Option (List A)} {persistent : Bool}
    (hf : ∀ e, f.preallocate = some e → D e)
    (hprepare : ∀ e, E.prepare sql s.actor.conn.working = .error e → D e)
    (hnot : ¬ s.Executes f sql arguments persistent) :
    ∃ e cache, handleExecute E f sql arguments persistent s = (.error e, s.setCache cache) ∧
      e.Blames D := by
  rw [Session.Executes] at hnot
  rw [handleExecute, ← usesCache]
  by_cases hcache : usesCache arguments persistent = true
  · rw [if_pos hcache] at hnot
    rw [if_pos hcache]
    cases hget : E.cache.get s.actor.stmtCache sql with
    | some prepared =>
      have hlookup : lookup E sql s = (.ok (some prepared),
          s.setCache (E.cache.touch s.actor.stmtCache sql)) := by
        rw [lookup_apply, hget]
      rw [Proc.bind_of_ok hlookup]
      cases hlock : f.lock with
      | true => exact ⟨_, _, executeCached_locked hlock prepared, .own _⟩
      | false => exact absurd ⟨hlock, fun h ↦ absurd (hget.symm.trans h) (by simp)⟩ hnot
    | none =>
      rw [Proc.bind_of_ok (lookup_of_get_eq_none hget)]
      cases hprepared : E.prepare sql s.actor.conn.working with
      | error e =>
        exact ⟨_, s.actor.stmtCache, executeUncached_refused hprepared,
          .call _ (hprepare e hprepared)⟩
      | ok info =>
        cases hlock : f.lock with
        | true => exact ⟨_, s.actor.stmtCache, executeUncached_locked hlock hprepared, .own _⟩
        | false => exact absurd ⟨hlock, fun _ ↦ ⟨info, hprepared⟩⟩ hnot
  · rw [if_neg hcache] at hnot
    rw [if_neg hcache]
    cases hpre : f.preallocate with
    | some e =>
      exact ⟨_, s.actor.stmtCache, executeOneShot_unallocated hpre,
        .call _ (hf e hpre)⟩
    | none => exact absurd hpre hnot

/-- **An error that is streamed** kept the statement from being executed, or is one of its
batch. -/
theorem ConnectionActor.processExecute_blames {actor : ConnectionActor E}
    (hkeyed : CacheKeyed actor.stmtCache) (hE : E.ReadsCells R) {room : Option ℕ} {sql : String}
    {args : Option (List A)} {persistent : Bool} (hf : ∀ e, f.preallocate = some e → D e)
    (hprepare : ∀ e, E.prepare sql actor.conn.working = .error e → D e)
    (hD : ∀ e, (E.exec sql (args.getD []) actor.conn.working).1.Reports R e → D e) {e : Error}
    (h : .error e ∈ Wire.items (actor.processExecute f room sql args persistent).trace) :
    e.Blames D := by
  have h := (actor.items_isPrefix f room sql args persistent).subset h
  obtain ⟨hnot, -⟩ | ⟨-, context, events, hcarries, htrace⟩ :=
    actor.processExecute_open (f := f) hkeyed sql args persistent
  · obtain ⟨e', cache, hrun, hblames⟩ :=
      handleExecute_unexecuted (s := ⟨actor, ⟨none, []⟩⟩) hf hprepare hnot
    rw [processExecute, hrun] at h
    obtain heq : Except.error e = Except.error e' := List.mem_singleton.1 h
    cases heq
    exact hblames
  · rw [htrace, hcarries.items_trace, ErrStream.toList] at h
    obtain h | h := List.mem_append.1 h
    · obtain ⟨item, -, heq⟩ := List.mem_map.1 h
      cases heq
    · obtain ⟨e', he', heq⟩ := List.mem_map.1 h
      cases heq
      exact (Batch.stream_blames hE (Option.mem_toList.1 he')).mono hD

end Handlers

/-! ## Commands -/

/-- The statements of a command as the server answers them on these contents. -/
def Command.answers (E : Env C κ A V) (contents : C) : Command A → List (Batch κ)
  | .execute sql args _ => [(E.exec sql (args.getD []) contents).1]
  | .ping => [(E.exec "SELECT 1" [] contents).1]
  | .execSql sql | .scalarI64 sql | .listMigrations sql => [(E.exec sql [] contents).1]
  | .applyMigration sql trackingSql _ _ | .revertMigration sql trackingSql _ _ =>
    [(E.exec sql [] contents).1, (E.exec trackingSql [] (E.exec sql [] contents).2).1]
  | _ => []

/-- The savepoint statement of a command. -/
def Command.savepointSql (depth : ℕ) : Command A → Option Sql
  | .begin => some (.saveTransaction (savepointName depth))
  | .rollback => some (.rollbackTransaction (savepointName (depth - 1)))
  | _ => none

/-- The statement a command may have to prepare. -/
def Command.prepares : Command A → Option String
  | .execute sql _ _ | .prepare sql => some sql
  | _ => none

/-- The calls that are made for a command fail with these errors.  What was said about a prepared
statement may have been said before, but about this statement. -/
inductive Concerns (E : Env C κ A V) (R : κ → OdbcError → Prop) (start : ConnectionActor E)
    (past : List (Job A)) (job : Job A) : OdbcError → Prop
  | fault {e : OdbcError} (h : some e ∈ job.command.faults job.faults) :
      Concerns E R start past job e
  | answer {e : OdbcError} {batch : Batch κ} (hbatch : batch ∈
      job.command.answers E (past.foldl ConnectionActor.step start).conn.working)
      (h : batch.Reports R e) : Concerns E R start past job e
  | refusal {sql : Sql} (h : job.command.savepointSql
      (past.foldl ConnectionActor.step start).transactionDepth = some sql) :
      Concerns E R start past job (E.refusal sql)
  | unprepared {e : OdbcError} {sql : String} (hsql : job.command.prepares = some sql)
      (h : E.prepare sql (past.foldl ConnectionActor.step start).conn.working = .error e) :
      Concerns E R start past job e
  | described {e : OdbcError} {sql : String} {info : PreparedInfo}
      (hsql : job.command = .prepare sql) (hsaid : Said start past sql info)
      (h : info.Reports e) : Concerns E R start past job e

/-- The error of an answer. -/
def Response.error : Response → Option Error
  | .done (.error e) | .statement (.error e) | .scalar (.error e) | .migrations (.error e) => some e
  | _ => Option.none

/-- A command ends with this error: it is the answer, or it is streamed. -/
def Processed.Fails {E : Env C κ A V} (command : Command A) (processed : Processed E) (e : Error) :
    Prop :=
  processed.response.error = some e ∨ .error e ∈ command.streamed processed

section Commands

open Proc

variable {E : Env C κ A V} {R : κ → OdbcError → Prop}

theorem ConnectionActor.processExecute_response {actor : ConnectionActor E} {f : Faults}
    {room : Option ℕ} {sql : String} {args : Option (List A)} {persistent : Bool} :
    (actor.processExecute f room sql args persistent).response = .none := by
  rw [processExecute]
  split
  · rfl
  · rfl

theorem Response.done_error {r : Except Error Unit} {e : Error}
    (h : (Response.done r).error = some e) : r = .error e := by
  cases r with
  | error e' => exact congrArg Except.error (Option.some.inj h)
  | ok u => cases h

theorem Response.statement_error {r : Except Error MssqlStatement} {e : Error}
    (h : (Response.statement r).error = some e) : r = .error e := by
  cases r with
  | error e' => exact congrArg Except.error (Option.some.inj h)
  | ok statement => cases h

theorem Response.scalar_error {r : Except Error (Option ℤ)} {e : Error}
    (h : (Response.scalar r).error = some e) : r = .error e := by
  cases r with
  | error e' => exact congrArg Except.error (Option.some.inj h)
  | ok scalar => cases h

theorem Response.migrations_error {r : Except Error (List (ℤ × List UInt8))} {e : Error}
    (h : (Response.migrations r).error = some e) : r = .error e := by
  cases r with
  | error e' => exact congrArg Except.error (Option.some.inj h)
  | ok migrations => cases h

/-- One command: what it ends with is about a call that was made for it. -/
theorem ConnectionActor.process_blames (hE : E.ReadsCells R) (contents : C) (capacity : ℕ)
    (settings : MssqlBufferSettings) (past : List (Job A)) (job : Job A) {e : Error}
    (h : ((past.foldl step (.connect E contents capacity settings)).process job).Fails
      job.command e) :
    e.Blames (Concerns E R (.connect E contents capacity settings) past job) := by
  have hkeyed := run_cacheKeyed (E := E) contents capacity settings past
  have hremembers := run_remembers (E := E) contents capacity settings past
    fun past' hpast _ _ hsaid ↦ (⟨past', hpast, hsaid⟩ : Said _ past _ _)
  obtain ⟨command, f, room⟩ := job
  have hfault (o : OdbcError) (ho : some o ∈ command.faults f) :
      Concerns E R (.connect E contents capacity settings) past ⟨command, f, room⟩ o := .fault ho
  -- a handler answers with what it raises, and streams nothing
  have hhandler {α : Type} {handler : Handler E α} {respond : Except Error α → Response}
      (hrespond : ∀ r, (respond r).error = some e → r = .error e)
      (hraises : Raises (Error.Blames (Concerns E R (.connect E contents capacity settings) past
        ⟨command, f, room⟩)) handler
        ⟨past.foldl step (.connect E contents capacity settings), ⟨.none, []⟩⟩)
      (h : (runHandler (past.foldl step (.connect E contents capacity settings)) handler
        respond).response.error = some e ∨ .error e ∈ ([] : List (ExecuteResult V))) :
      e.Blames (Concerns E R (.connect E contents capacity settings) past ⟨command, f, room⟩) :=
    hraises e (hrespond _ (h.resolve_right List.not_mem_nil))
  cases command with
  | execute sql args persistent =>
    obtain h | h := h
    · rw [process, processExecute_response] at h
      cases h
    · exact processExecute_blames hkeyed hE (fun o ho ↦ hfault o (ho ▸ List.mem_cons_self))
        (fun _ ↦ .unprepared rfl) (fun _ ↦ .answer List.mem_cons_self) h
  | prepare sql =>
    refine hhandler (fun _ ↦ Response.statement_error)
      (handlePrepare_raises (fun _ ↦ .unprepared rfl) ?_ ?_) h
    · exact fun info hinfo _ ↦ .described rfl ⟨past, List.prefix_refl past, hinfo⟩
    · exact fun prepared hget _ ↦ .described rfl (hremembers sql prepared hget)
  | ping =>
    exact hhandler (fun _ ↦ Response.done_error) (singleStatement_raises
      (fun _ ↦ .answer List.mem_cons_self) fun _ _ _ ↦ .pure _) h
  | begin =>
    exact hhandler (fun _ ↦ Response.done_error)
      (handleBegin_raises hfault (.refusal rfl)) h
  | commit =>
    exact hhandler (fun _ ↦ Response.done_error) (handleCommit_raises hfault) h
  | rollback =>
    exact hhandler (fun _ ↦ Response.done_error)
      (handleRollback_raises hfault (.refusal rfl)) h
  | startRollback =>
    obtain h | h := h
    · cases h
    · cases h
  | execSql sql =>
    exact hhandler (fun _ ↦ Response.done_error) (singleStatement_raises
      (fun _ ↦ .answer List.mem_cons_self) fun _ _ _ ↦ .pure _) h
  | scalarI64 sql =>
    refine hhandler (fun _ ↦ Response.scalar_error) (singleStatement_raises
      (fun _ ↦ .answer List.mem_cons_self) fun c _ hexecuted ↦ ?_) h
    cases c with
    | none => exact .fail (.own _)
    | some cursor =>
      exact .ofExcept fun e he ↦ (scalarOfCursor_blames hE hexecuted he).mono
        fun _ ↦ .answer List.mem_cons_self
  | shutdown =>
    obtain h | h := h
    · cases h
    · cases h
  | listMigrations sql =>
    refine hhandler (fun _ ↦ Response.migrations_error) (singleStatement_raises
      (fun _ ↦ .answer List.mem_cons_self) fun c _ hexecuted ↦ ?_) h
    cases c with
    | none => exact .fail (.own _)
    | some cursor =>
      refine .ofExcept fun e he ↦ (migrationsOfRows_blames hE (fun _ ↦ id) he).mono ?_
      exact fun _ he' ↦ .answer List.mem_cons_self (.first (Batch.head_of_executed hexecuted) he')
  | applyMigration sql insertSql version noTx =>
    exact hhandler (fun _ ↦ Response.done_error) (runMigration_raises hfault
      (fun _ ↦ .answer List.mem_cons_self)
      fun _ ↦ .answer (List.mem_cons_of_mem _ List.mem_cons_self)) h
  | revertMigration sql deleteSql version noTx =>
    exact hhandler (fun _ ↦ Response.done_error) (runMigration_raises hfault
      (fun _ ↦ .answer List.mem_cons_self)
      fun _ ↦ .answer (List.mem_cons_of_mem _ List.mem_cons_self)) h
  | statementCacheSize =>
    obtain h | h := h
    · cases h
    · cases h
  | clearStatementCache =>
    obtain h | h := h
    · cases h
    · cases h

end Commands

/-! ## The conversions of the driver -/

/-- A conversion the driver asks for cell by cell fails with the error. -/
inductive Cell.Reports (cell : Cell) : OdbcError → Prop
  | bit {e : OdbcError} (h : cell.bit = .error e) : Reports cell e
  | i16 {e : OdbcError} (h : cell.i16 = .error e) : Reports cell e
  | i32 {e : OdbcError} (h : cell.i32 = .error e) : Reports cell e
  | i64 {e : OdbcError} (h : cell.i64 = .error e) : Reports cell e
  | f32 {e : OdbcError} (h : cell.f32 = .error e) : Reports cell e
  | f64 {e : OdbcError} (h : cell.f64 = .error e) : Reports cell e
  | date {e : OdbcError} (h : cell.date = .error e) : Reports cell e
  | time {e : OdbcError} (h : cell.time = .error e) : Reports cell e
  | timestamp {e : OdbcError} (h : cell.timestamp = .error e) : Reports cell e
  | wideText {e : OdbcError} (h : cell.wideText = .error e) : Reports cell e
  | binary {e : OdbcError} (h : cell.binary = .error e) : Reports cell e

theorem fetchNullable_blames {α : Type} {D : OdbcError → Prop} {column : MssqlColumn}
    {answer : Except OdbcError (Option α)} {map : α → MssqlValueKind} {e : Error}
    (h : fetchNullable column answer map = .error e) (hD : ∀ {e}, answer = .error e → D e) :
    e.Blames D := by
  cases answer with
  | error e' =>
    cases h
    exact .call _ (hD rfl)
  | ok value =>
    cases value with
    | none => cases h
    | some x => cases h

theorem fetchKind_blames {column : MssqlColumn} {cell : Cell} {e : Error}
    (h : fetchKind column cell = .error e) : e.Blames cell.Reports := by
  rw [fetchKind] at h
  split at h
  · exact fetchNullable_blames h .bit
  · exact fetchNullable_blames h .i16
  · exact fetchNullable_blames h .i16
  · exact fetchNullable_blames h .i32
  · exact fetchNullable_blames h .i64
  · exact fetchNullable_blames h .f32
  · exact fetchNullable_blames h .f64
  · exact fetchNullable_blames h .f64
  · exact fetchNullable_blames h .date
  · exact fetchNullable_blames h .time
  · exact fetchNullable_blames h .timestamp
  · exact fetchNullable_blames h .binary
  · exact fetchNullable_blames h .binary
  · exact fetchNullable_blames h .binary
  · exact fetchNullable_blames h .wideText
  · exact fetchNullable_blames h .wideText
  · split at h
    · exact fetchNullable_blames h .binary
    · exact fetchNullable_blames h .wideText
  · exact fetchNullable_blames h .wideText

theorem readsCells_odbc (exec : String → List A → C → Batch Cell × C)
    (prepare : String → C → Except OdbcError PreparedInfo) (refusal : Sql → OdbcError)
    (cache : CacheImpl String (Prepared Cell)) :
    (Env.odbc exec prepare refusal cache).ReadsCells Cell.Reports where
  fetchValue column cell e h := by
    have h : (fetchKind column cell).map MssqlValue.mk = .error e := h
    cases hkind : fetchKind column cell with
    | error e' =>
      rw [hkind] at h
      cases h
      exact fetchKind_blames hkind
    | ok kind =>
      rw [hkind] at h
      cases h
  getI64 cell e h := by
    have h : cell.i64.map (Option.map Subtype.val) = .error e := h
    cases hcell : cell.i64 with
    | error e' =>
      rw [hcell] at h
      cases h
      exact .i64 hcell
    | ok value =>
      rw [hcell] at h
      cases h
  getBinary _ _ h := .binary h

/-- **No error is made up.**  Whatever happened on the connection before, and however many items the
consumer takes: if a command is answered with an error, or one is streamed, then it is the driver's
own, or it is what a call made for this very command has reported.  Its code is the SQLSTATE of that
call, its message a context in front of what the call says. -/
theorem errors_blamed (exec : String → List A → C → Batch Cell × C)
    (prepare : String → C → Except OdbcError PreparedInfo) (refusal : Sql → OdbcError)
    (cache : CacheImpl String (Prepared Cell)) (contents : C) (capacity : ℕ)
    (settings : MssqlBufferSettings) (past : List (Job A)) (job : Job A) (e : Error) :
    let E := Env.odbc exec prepare refusal cache
    let start := ConnectionActor.connect E contents capacity settings
    ((past.foldl ConnectionActor.step start).process job).Fails job.command e →
      (∃ message, e = .protocol message) ∨
      ∃ (error : OdbcError) (context : String),
        Concerns E Cell.Reports start past job error ∧
        e = .database {
          error := error
          message := context ++ ": " ++ (MssqlDatabaseError.ofOdbc error).message
          code := error.record.bind MssqlDatabaseError.diagnosticCode } := by
  intro E start h
  have hblames := ConnectionActor.process_blames (readsCells_odbc exec prepare refusal cache)
    contents capacity settings past job h
  cases hblames with
  | own message => exact Or.inl ⟨message, rfl⟩
  | @call error context hconcerns => exact Or.inr ⟨error, context, hconcerns, rfl⟩

/-- What is reported when the server cannot be reached. -/
def linkFailure : OdbcError :=
  ⟨some ⟨"08S01", "Communication link failure"⟩, "ODBC emitted an error calling SQLExecDirect"⟩

/-- A server that went away. -/
def Env.unreachable : Env Unit Cell Unit MssqlValue :=
  .odbc (fun _ _ contents ↦ (⟨.error linkFailure, []⟩, contents)) (fun _ _ ↦ .error linkFailure)
    (fun _ ↦ linkFailure) (lru String (Prepared Cell))

/-- A ping in a transaction. -/
theorem errors_blamed_ping :
    let start := ConnectionActor.connect Env.unreachable () 100 default
    let ping : Job Unit := ⟨.ping, .none, none⟩
    (∃ message, databaseError "MSSQL ping query failed: `SELECT 1`" linkFailure =
      .protocol message) ∨
    ∃ (error : OdbcError) (context : String),
      Concerns Env.unreachable Cell.Reports start [⟨.begin, .none, none⟩] ping error ∧
      databaseError "MSSQL ping query failed: `SELECT 1`" linkFailure = .database {
        error := error
        message := context ++ ": " ++ (MssqlDatabaseError.ofOdbc error).message
        code := error.record.bind MssqlDatabaseError.diagnosticCode } :=
  errors_blamed _ _ _ _ () 100 default [⟨.begin, .none, none⟩] ⟨.ping, .none, none⟩ _ (Or.inl rfl)

end MssqlOdbc
