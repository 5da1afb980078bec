import MssqlOdbc.Connection.Helpers

/-!
# The connection actor

`ConnectionActor` owns the ODBC connection on a thread of its own and processes one command after
the other.  A handler is a program on a `Session`: the actor together with the outside of the
command in hand.  Early returns keep what the actor has already written, so a handler that fails
half way leaves the connection as it is at that point.

Command by command, `process` says which handler runs, and `run` is the loop: it ends at a
`Shutdown` command, or when the channel is closed.
-/

set_option autoImplicit false

namespace MssqlOdbc

open TxStore

variable {C κ A V : Type}

/-- The actor: the connection, the prepared statements, and the nesting of transactions. -/
structure ConnectionActor (E : Env C κ A V) where
  conn : Connection C
  stmtCache : E.cache.State
  transactionDepth : ℕ
  bufferSettings : MssqlBufferSettings

/-- The actor on a connection that was just opened. -/
def ConnectionActor.connect (E : Env C κ A V) (contents : C) (statementCacheCapacity : ℕ)
    (bufferSettings : MssqlBufferSettings) : ConnectionActor E where
  conn := ⟨contents, none⟩
  stmtCache := E.cache.new statementCacheCapacity
  transactionDepth := 0
  bufferSettings := bufferSettings

/-- The actor at work on a command. -/
structure Session (E : Env C κ A V) where
  actor : ConnectionActor E
  wire : Wire A V

namespace Session

variable {E : Env C κ A V}

def setConn (conn : Connection C) (s : Session E) : Session E :=
  { s with actor := { s.actor with conn := conn } }

def setCache (cache : E.cache.State) (s : Session E) : Session E :=
  { s with actor := { s.actor with stmtCache := cache } }

def setDepth (depth : ℕ) (s : Session E) : Session E :=
  { s with actor := { s.actor with transactionDepth := depth } }

def setWire (wire : Wire A V) (s : Session E) : Session E := { s with wire := wire }

def log (event : Event A V) (s : Session E) : Session E := s.setWire (s.wire.log event)

variable (s : Session E) (conn : Connection C) (cache : E.cache.State) (depth : ℕ)
  (wire : Wire A V) (event : Event A V)

@[simp] theorem setConn_actor : (s.setConn conn).actor = { s.actor with conn := conn } := rfl

@[simp] theorem setConn_wire : (s.setConn conn).wire = s.wire := rfl

@[simp] theorem setCache_actor : (s.setCache cache).actor = { s.actor with stmtCache := cache } :=
  rfl

@[simp] theorem setDepth_actor :
    (s.setDepth depth).actor = { s.actor with transactionDepth := depth } := rfl

@[simp] theorem setWire_actor : (s.setWire wire).actor = s.actor := rfl

@[simp] theorem setWire_wire : (s.setWire wire).wire = wire := rfl

@[simp] theorem log_actor : (s.log event).actor = s.actor := rfl

@[simp] theorem log_wire : (s.log event).wire = s.wire.log event := rfl

end Session

/-- A command handler. -/
abbrev Handler (E : Env C κ A V) (α : Type) : Type := Proc (Session E) Error α

/-- `MssqlStatement`: the metadata of a prepared statement. -/
structure MssqlStatement where
  sql : String
  columns : List MssqlColumn
  parameters : Option (List MssqlTypeInfo ⊕ ℕ)

section Calls

variable (E : Env C κ A V) (f : Faults)

/-! ## ODBC calls -/

/-- Locking the mutex around the connection. -/
def lock (message : String) : Handler E Unit :=
  if f.lock then .fail (.protocol message) else return ()

/-- A call on the connection that either fails or changes its transaction mode. -/
def connectionCall (fault : Option OdbcError) (effect : Connection C → Connection C) :
    Proc (Session E) OdbcError Unit :=
  match fault with
  | some e => .fail e
  | none => .modify fun s ↦ s.setConn (effect s.actor.conn)

def setAutocommit (on : Bool) : Proc (Session E) OdbcError Unit :=
  connectionCall E (f.setAutocommit on) (Store.setAutocommit on)

def commit : Proc (Session E) OdbcError Unit := connectionCall E f.commit Store.commit

def rollback : Proc (Session E) OdbcError Unit := connectionCall E f.rollback Store.rollback

/-- A savepoint statement: it fails, or the server carries it out or refuses it. -/
def savepointStatement (sql : Sql) (effect : Connection C → Option (Connection C)) :
    Proc (Session E) OdbcError (Option (CursorImpl κ)) := do
  .modify (Session.log (.executedOnConnection sql))
  match f.transactionSql with
  | some e => .fail e
  | none => do
    match effect (← .get).actor.conn with
    | some conn => do
      .modify (Session.setConn conn)
      return none
    | none => .fail (E.refusal sql)

/-- Executes a statement on a handle: what `odbc_api` returns, and the handle.  This is what a free
connection does; unread results on another handle can make the driver refuse. -/
def executeStatement (event : Event A V) (sql : String) (parameters : List A) :
    Handler E (Except OdbcError (Option (CursorImpl κ)) × StmtHandle κ) := fun s ↦
  let (batch, contents) := E.exec sql parameters s.actor.conn.working
  (.ok batch.executed, (s.setConn (s.actor.conn.write fun _ ↦ contents)).log event)

/-- `Connection::execute` without parameters. -/
def executeOnConnection (sql : Sql) : Proc (Session E) OdbcError (Option (CursorImpl κ)) :=
  match sql with
  | .saveTransaction savepoint => savepointStatement E f sql (Store.save savepoint)
  | .rollbackTransaction savepoint => savepointStatement E f sql (Store.rollbackTo savepoint)
  | .text text => fun s ↦
    let (batch, contents) := E.exec text [] s.actor.conn.working
    (batch.executed.1,
      (s.setConn (s.actor.conn.write fun _ ↦ contents)).log (.executedOnConnection sql))

/-- `StatementCache::get_mut`. -/
def lookup (sql : String) : Handler E (Option (Prepared κ)) := do
  let cache := (← .get).actor.stmtCache
  .modify (Session.setCache (E.cache.touch cache sql))
  return E.cache.get cache sql

/-- Allocates a statement handle. -/
def preallocate : Proc (Session E) OdbcError Unit :=
  match f.preallocate with
  | some e => .fail e
  | none => return ()

/-- `into_prepared`.  On a connection with a poisoned mutex the real one panics. -/
def intoPrepared (sql : String) : Proc (Session E) OdbcError (Prepared κ) := do
  match E.prepare sql (← .get).actor.conn.working with
  | .error e => .fail e
  | .ok info => return ⟨sql, info, .closed⟩

/-- `drive_result_sets` on a handle, which is handed back with the outcome. -/
def drive (stmt : StmtHandle κ) : Handler E (Except Error Unit × StmtHandle κ) := fun s ↦
  let walked := driveResultSets E s.actor.bufferSettings stmt s.wire
  (.ok (walked.outcome, walked.stmt), s.setWire walked.wire)

/-- `drain_result_sets` on a handle that is freed afterwards. -/
def drain (stmt : StmtHandle κ) : Handler E Unit := fun s ↦
  let walked := drainResultSets stmt s.wire
  (walked.outcome, s.setWire walked.wire)

/-- The bare handle of an executed statement, with a cursor or without. -/
def bareHandle (cursor : Option (CursorImpl κ)) (stmt : StmtHandle κ) : StmtHandle κ :=
  match cursor with
  | none => stmt
  | some cursor => cursor.intoStmt

/-! ## Execute -/

/-- The path for a statement found in the cache.  The walk borrows the cached statement, so
whatever the walk leaves on the handle stays there. -/
def executeCached (sql : String) (parameters : List A) (prepared : Prepared κ) :
    Handler E Unit := do
  lock E f "ODBC execute: failed to lock connection"
  let (executed, stmt) ← executeStatement E (.executed prepared.sql parameters) prepared.sql
    parameters
  match executed with
  | .error e => do
    .modify fun s ↦ s.setCache (E.cache.put s.actor.stmtCache sql { prepared with stmt := stmt })
    .fail (databaseError s!"failed to execute cached ODBC statement: `{sqlPreview sql}`" e)
  | .ok cursor => do
    let (outcome, stmt) ← drive E (bareHandle cursor stmt)
    .modify fun s ↦ s.setCache (E.cache.put s.actor.stmtCache sql { prepared with stmt := stmt })
    .ofExcept outcome

/-- The path for a statement that has to be prepared first.  It is executed exactly once, and
cached only if its first result has no columns and the walk succeeded. -/
def executeUncached (sql : String) (parameters : List A) : Handler E Unit := do
  let prepared ← (intoPrepared E sql).mapError
    (databaseError s!"failed to prepare cached ODBC statement: `{sqlPreview sql}`")
  lock E f "ODBC execute: failed to lock connection"
  let (executed, stmt) ← executeStatement E (.executed prepared.sql parameters) prepared.sql
    parameters
  match executed with
  | .error e =>
    .fail (databaseError s!"failed to execute cached ODBC statement: `{sqlPreview sql}`" e)
  | .ok none => do
    let (outcome, stmt) ← drive E stmt
    match outcome with
    | .ok () =>
      .modify fun s ↦
        s.setCache (E.cache.insert s.actor.stmtCache sql { prepared with stmt := stmt })
    | .error e => .fail e
  | .ok (some cursor) => do
    let (outcome, _) ← drive E cursor.intoStmt
    .ofExcept outcome

/-- The unprepared path.  Executing a preallocated statement panics on a connection with a poisoned
mutex; here it goes on. -/
def executeOneShot (sql : String) (parameters : List A) : Handler E Unit := do
  (preallocate E f).mapError
    (databaseError s!"failed to allocate an ODBC statement for query: `{sqlPreview sql}`")
  let (executed, stmt) ← executeStatement E (.executed sql parameters) sql parameters
  match executed with
  | .error e => .fail (databaseError s!"failed to execute ODBC query: `{sqlPreview sql}`" e)
  | .ok cursor => do
    let (outcome, _) ← drive E (bareHandle cursor stmt)
    .ofExcept outcome

def handleExecute (sql : String) (arguments : Option (List A)) (persistent : Bool) :
    Handler E Unit := do
  let hasArguments := arguments.any fun a ↦ !a.isEmpty
  let parameters := arguments.getD []
  if persistent && hasArguments then
    match ← lookup E sql with
    | some prepared => executeCached E f sql parameters prepared
    | none => executeUncached E f sql parameters
  else
    executeOneShot E f sql parameters

/-! ## Prepare -/

/-- The parameter types, or only their number if one of them cannot be described. -/
def collectParamTypes (info : PreparedInfo) : Except Error (Option (List MssqlTypeInfo ⊕ ℕ)) :=
  match info.numParams with
  | .error e => .error (databaseError "failed to read ODBC parameter count" e)
  | .ok 0 => .ok none
  | .ok (n + 1) =>
    match (List.range (n + 1)).mapM fun i ↦ info.describeParam (i + 1) with
    | .ok types => .ok (some (.inl (types.map MssqlTypeInfo.mk)))
    | .error _ => .ok (some (.inr (n + 1)))

def describePrepared (sql : String) (info : PreparedInfo) : Except Error MssqlStatement := do
  let parameters ← collectParamTypes info
  let columns ← collectPreparedColumns info.toMetadata
  return ⟨sql, columns, parameters⟩

def handlePrepare (sql : String) : Handler E MssqlStatement := do
  match ← lookup E sql with
  | some prepared => .ofExcept (describePrepared sql prepared.info)
  | none => do
    let prepared ← (intoPrepared E sql).mapError
      (databaseError s!"failed to prepare MSSQL ODBC statement: `{sqlPreview sql}`")
    let statement ← .ofExcept (describePrepared sql prepared.info)
    if E.cache.isEnabled (← .get).actor.stmtCache then
      .modify fun s ↦ s.setCache (E.cache.insert s.actor.stmtCache sql prepared)
    return statement

/-! ## Transactions -/

/-- The savepoint of a nesting level. -/
def savepointName (depth : ℕ) : String := s!"sqlx_sp_{depth}"

def handleBegin : Handler E Unit := do
  let depth := (← .get).actor.transactionDepth
  if depth = 0 then
    lock E f "MSSQL ODBC begin: failed to lock connection"
    (setAutocommit E f false).mapError
      (databaseError "failed to disable ODBC autocommit while beginning a transaction")
    .modify (Session.setDepth (depth + 1))
  else
    let savepoint := savepointName depth
    lock E f "MSSQL ODBC begin (savepoint): failed to lock connection"
    let _ ← (executeOnConnection E f (.saveTransaction savepoint)).mapError
      (databaseError s!"failed to create save point `{savepoint}` for nested transaction")
    .modify (Session.setDepth (depth + 1))

def handleCommit : Handler E Unit := do
  let depth := (← .get).actor.transactionDepth
  if depth = 0 then
    return ()
  else if depth = 1 then
    lock E f "MSSQL ODBC commit: failed to lock connection"
    (commit E f).mapError (databaseError "failed to commit the active MSSQL ODBC transaction")
    (setAutocommit E f true).mapError
      (databaseError "failed to restore ODBC autocommit after commit")
    .modify (Session.setDepth 0)
  else
    .modify (Session.setDepth (depth - 1))

def handleRollback : Handler E Unit := do
  let depth := (← .get).actor.transactionDepth
  if depth = 0 then
    return ()
  else if depth = 1 then
    lock E f "MSSQL ODBC rollback: failed to lock connection"
    (rollback E f).mapError (databaseError "failed to roll back the active ODBC transaction")
    (setAutocommit E f true).mapError
      (databaseError "failed to restore ODBC autocommit after rollback")
    .modify (Session.setDepth 0)
  else
    let savepoint := savepointName (depth - 1)
    lock E f "MSSQL ODBC rollback (savepoint): failed to lock connection"
    let _ ← (executeOnConnection E f (.rollbackTransaction savepoint)).mapError
      (databaseError s!"failed to roll back to save point `{savepoint}`")
    .modify (Session.setDepth (depth - 1))

/-- The rollback of a dropped transaction.  Nobody waits for it: errors are ignored. -/
def handleStartRollback : Handler E Unit := do
  let depth := (← .get).actor.transactionDepth
  if depth = 0 then
    return ()
  else if depth = 1 then
    if f.lock then
      .modify (Session.setDepth 0)
    else
      (rollback E f).ignore
      (setAutocommit E f true).ignore
      .modify (Session.setDepth 0)
  else
    let savepoint := savepointName (depth - 1)
    if f.lock then
      .modify (Session.setDepth (depth - 1))
    else
      (executeOnConnection E f (.rollbackTransaction savepoint)).ignore
      .modify (Session.setDepth (depth - 1))

/-! ## Single statements -/

def handlePing : Handler E Unit := do
  lock E f "failed to lock connection for ping"
  let _ ← (executeOnConnection E f (.text "SELECT 1")).mapError
    (databaseError "MSSQL ping query failed: `SELECT 1`")
  return ()

def handleExecSql (sql : String) : Handler E Unit := do
  lock E f "failed to lock the shared ODBC connection"
  let _ ← (executeOnConnection E f (.text sql)).mapError
    (databaseError s!"failed to execute SQL: `{sqlPreview sql}`")
  return ()

/-- `Cursor::next_row`, repeatedly: the rows, and what the fetch behind the last one reports. -/
def CursorImpl.rows (cursor : CursorImpl κ) : List (ℕ → κ) × Option OdbcError :=
  (cursor.stmt.result.rowsets.flatten, cursor.stmt.result.fetchError)

/-- The first column of the first row. -/
def scalarOfCursor (cursor : CursorImpl κ) : Except Error (Option ℤ) :=
  match cursor.rows with
  | ([], some e) => .error (databaseError "scalar query next row" e)
  | ([], none) => .ok none
  | (row :: _, _) => (E.getI64 (row 0)).mapError (databaseError "scalar query column 1")

def handleScalarI64 (sql : String) : Handler E (Option ℤ) := do
  lock E f "failed to lock the shared ODBC connection"
  let cursor ← (executeOnConnection E f (.text sql)).mapError
    (databaseError s!"scalar query failed: `{sqlPreview sql}`")
  match cursor with
  | none => .fail (.protocol s!"scalar query returned no result set: `{sqlPreview sql}`")
  | some cursor => .ofExcept (scalarOfCursor E cursor)

/-- One applied migration; a row without a version is skipped, one without a checksum gets an
empty one. -/
def migrationOfRow (row : ℕ → κ) : Except Error (Option (ℤ × List UInt8)) := do
  let version ← (E.getI64 (row 0)).mapError (databaseError "failed to read migration version")
  let checksum ← (E.getBinary (row 1)).mapError
    (databaseError "failed to read migration checksum")
  return version.map fun version ↦ (version, checksum.getD [])

/-- The rows of the tracking table. -/
def migrationsOfRows (fetchError : Option OdbcError) :
    List (ℕ → κ) → Except Error (List (ℤ × List UInt8))
  | [] =>
    match fetchError with
    | some e => .error (databaseError "failed to read applied migration row" e)
    | none => .ok []
  | row :: rows => do
    let migration ← migrationOfRow E row
    return migration.toList ++ (← migrationsOfRows fetchError rows)

def handleListMigrations (sql : String) : Handler E (List (ℤ × List UInt8)) := do
  lock E f "failed to lock the shared ODBC connection"
  let cursor ← (executeOnConnection E f (.text sql)).mapError
    (databaseError "failed to query applied migrations")
  match cursor with
  | none => .fail (.protocol "list_applied_migrations returned no result set")
  | some cursor => .ofExcept (migrationsOfRows E cursor.rows.2 cursor.rows.1)

/-! ## Migrations -/

/-- What a migration handler says it was doing when a call fails. -/
structure MigrationTexts where
  start : String
  allocate : String
  execute : String
  track : String
  commit : String
  restore : String

/-- Runs the whole batch of a migration and steps through all its results. -/
def migrationBatch (texts : MigrationTexts) (sql : String) : Handler E Unit := do
  (preallocate E f).mapError (databaseError texts.allocate)
  let (executed, stmt) ← executeStatement E (.executed sql []) sql []
  match executed with
  | .error e => .fail (databaseError texts.execute e)
  | .ok cursor => drain E (bareHandle cursor stmt)

/-- The two migration handlers are the same program: they differ in the statement that changes the
tracking table and in what they say when a call fails. -/
def runMigration (texts : MigrationTexts) (sql trackingSql : String) (noTx : Bool) :
    Handler E Unit := do
  lock E f "failed to lock the shared ODBC connection for migration"
  ((setAutocommit E f false).mapError (databaseError texts.start)).skipIf noTx
  match ← (migrationBatch E f texts sql).attempt with
  | .error e => do
    Proc.skipIf (do
      (rollback E f).ignore
      (setAutocommit E f true).ignore) noTx
    .fail e
  | .ok () => do
    let _ ← (executeOnConnection E f (.text trackingSql)).mapError (databaseError texts.track)
    Proc.skipIf (do
      (commit E f).mapError (databaseError texts.commit)
      (setAutocommit E f true).mapError (databaseError texts.restore)) noTx

def applyTexts (version : ℤ) : MigrationTexts where
  start := "failed to start transaction for migration apply"
  allocate := s!"failed to allocate statement for migration {version}"
  execute := s!"migration {version} failed"
  track := s!"failed to insert tracking record for migration {version}"
  commit := s!"failed to commit migration {version}"
  restore := "failed to restore autocommit after migration apply"

def revertTexts (version : ℤ) : MigrationTexts where
  start := "failed to start transaction for migration revert"
  allocate := s!"failed to allocate statement for revert migration {version}"
  execute := s!"revert migration {version} failed"
  track := s!"failed to delete tracking record for migration {version}"
  commit := s!"failed to commit migration revert {version}"
  restore := "failed to restore autocommit after migration revert"

def handleApplyMigration (sql insertSql : String) (version : ℤ) (noTx : Bool) : Handler E Unit :=
  runMigration E f (applyTexts version) sql insertSql noTx

def handleRevertMigration (sql deleteSql : String) (version : ℤ) (noTx : Bool) :
    Handler E Unit :=
  runMigration E f (revertTexts version) sql deleteSql noTx

end Calls

/-! ## The command loop -/

/-- What the handle sends to the actor.  The response channels are the results of `process`. -/
inductive Command (A : Type) where
  | execute (sql : String) (args : Option (List A)) (persistent : Bool)
  | prepare (sql : String)
  | ping
  | begin
  | commit
  | rollback
  | startRollback
  | execSql (sql : String)
  | scalarI64 (sql : String)
  | shutdown
  | listMigrations (sql : String)
  | applyMigration (sql insertSql : String) (version : ℤ) (noTx : Bool)
  | revertMigration (sql deleteSql : String) (version : ℤ) (noTx : Bool)
  | statementCacheSize
  | clearStatementCache

def Command.isShutdown : Command A → Bool
  | .shutdown => true
  | _ => false

/-- What goes back through the response channel; the items of an `Execute` are on the wire. -/
inductive Response where
  | none
  | done (result : Except Error Unit)
  | statement (result : Except Error MssqlStatement)
  | scalar (result : Except Error (Option ℤ))
  | migrations (result : Except Error (List (ℤ × List UInt8)))
  | size (entries : ℕ)

/-- A command together with what the outside does while it is processed: which connection-level
calls fail, and after how many items the consumer of the response stream is gone. -/
structure Job (A : Type) where
  command : Command A
  faults : Faults
  room : Option ℕ

/-- What processing a command leaves. -/
structure Processed (E : Env C κ A V) where
  actor : ConnectionActor E
  trace : List (Event A V)
  response : Response

namespace ConnectionActor

variable {E : Env C κ A V}

/-- Runs a handler on a fresh wire. -/
def runHandler {α : Type} (actor : ConnectionActor E) (handler : Handler E α)
    (respond : Except Error α → Response) : Processed E :=
  let (result, s) := handler ⟨actor, ⟨.none, []⟩⟩
  ⟨s.actor, s.wire.trace, respond result⟩

/-- An `Execute` reports through the wire; what the handler itself fails with is forwarded. -/
def processExecute (actor : ConnectionActor E) (f : Faults) (room : Option ℕ) (sql : String)
    (args : Option (List A)) (persistent : Bool) : Processed E :=
  match handleExecute E f sql args persistent ⟨actor, ⟨room, []⟩⟩ with
  | (.error e, s) => ⟨s.actor, (s.wire.send (.error e)).2.trace, .none⟩
  | (.ok (), s) => ⟨s.actor, s.wire.trace, .none⟩

/-- One turn of the command loop. -/
def process (actor : ConnectionActor E) (job : Job A) : Processed E :=
  let f := job.faults
  match job.command with
  | .execute sql args persistent => actor.processExecute f job.room sql args persistent
  | .prepare sql => actor.runHandler (handlePrepare E sql) .statement
  | .ping => actor.runHandler (handlePing E f) .done
  | .begin => actor.runHandler (handleBegin E f) .done
  | .commit => actor.runHandler (handleCommit E f) .done
  | .rollback => actor.runHandler (handleRollback E f) .done
  | .startRollback => actor.runHandler (handleStartRollback E f) fun _ ↦ .none
  | .execSql sql => actor.runHandler (handleExecSql E f sql) .done
  | .scalarI64 sql => actor.runHandler (handleScalarI64 E f sql) .scalar
  | .shutdown => ⟨actor, [], .done (.ok ())⟩
  | .listMigrations sql => actor.runHandler (handleListMigrations E f sql) .migrations
  | .applyMigration sql insertSql version noTx =>
    actor.runHandler (handleApplyMigration E f sql insertSql version noTx) .done
  | .revertMigration sql deleteSql version noTx =>
    actor.runHandler (handleRevertMigration E f sql deleteSql version noTx) .done
  | .statementCacheSize => ⟨actor, [], .size (E.cache.len actor.stmtCache)⟩
  | .clearStatementCache =>
    ⟨{ actor with stmtCache := E.cache.clear actor.stmtCache }, [], .done (.ok ())⟩

/-- The actor after a command. -/
def step (actor : ConnectionActor E) (job : Job A) : ConnectionActor E := (actor.process job).actor

/-- The command loop. -/
def run (actor : ConnectionActor E) : List (Job A) → ConnectionActor E × List Response
  | [] => (actor, [])
  | job :: jobs =>
    let processed := actor.process job
    match job.command with
    | .shutdown => (processed.actor, [processed.response])
    | _ =>
      let (actor, responses) := processed.actor.run jobs
      (actor, processed.response :: responses)

/-- The loop takes one `step` for each command up to the first `Shutdown`. -/
theorem run_fst (actor : ConnectionActor E) (jobs : List (Job A)) :
    (actor.run jobs).1 = (jobs.takeWhile fun job ↦ !job.command.isShutdown).foldl step actor := by
  induction jobs generalizing actor with
  | nil => rfl
  | cons job jobs ih =>
    obtain ⟨command, f, room⟩ := job
    cases command with
    | shutdown => rfl
    | _ => exact ih _

end ConnectionActor

end MssqlOdbc
