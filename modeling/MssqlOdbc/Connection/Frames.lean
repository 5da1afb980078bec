import MssqlOdbc.Execute.Paths

/-!
# What statements leave alone

A command that runs a statement changes the contents the connection works on and nothing else about
the connection: not the mode, not the depth, not what is committed while a transaction is open.
`Written` says so for the actor, with the change to the contents spelled out, and every
single-statement handler, `handleExecute` and `handlePrepare` are instances.

The statement cache stays keyed (`CacheKeyed`) through every command.
-/

set_option autoImplicit false

namespace MssqlOdbc

open TxStore

variable {C κ A V : Type} {E : Env C κ A V} {f : Faults}

/-! ## Writing -/

/-- The actor `a'` is `a` after a statement that changes the contents by `g`; what happened to the
statement cache is left open. -/
structure Written (g : C → C) (a a' : ConnectionActor E) : Prop where
  conn : a'.conn = a.conn.write g
  depth : a'.transactionDepth = a.transactionDepth

theorem Written.refl (a : ConnectionActor E) : Written id a a := ⟨(Store.write_id a.conn).symm, rfl⟩

/-! ## Single statements -/

theorem executeOnConnection_text (sql : String) (s : Session E) :
    executeOnConnection E f (.text sql) s =
      ((E.exec sql [] s.actor.conn.working).1.executed.1,
        (s.setConn (s.actor.conn.write fun contents ↦ (E.exec sql [] contents).2)).log
          (.executedOnConnection (.text sql))) := by
  rw [executeOnConnection, ← Store.write_working fun contents ↦ (E.exec sql [] contents).2]

/-- A handler that locks the connection, runs one statement and then only looks at the answer. -/
theorem singleStatement {α : Type} {message sql : String} {g : OdbcError → Error}
    {k : Option (CursorImpl κ) → Handler E α} (hk : ∀ c s, (k c s).2 = s) (s : Session E) :
    let s' := ((do
      lock E f message
      let c ← (executeOnConnection E f (.text sql)).mapError g
      k c : Handler E α) s).2
    s'.actor = s.actor ∧ f.lock = true ∨
      Written (fun contents ↦ (E.exec sql [] contents).2) s.actor s'.actor := by
  cases hl : f.lock with
  | true =>
    rw [Proc.bind_of_error (t := s) (by rw [lock, hl]; rfl)]
    exact Or.inl ⟨rfl, rfl⟩
  | false =>
    rw [Proc.bind_of_ok (a := ()) (t := s) (by rw [lock, hl]; rfl), Proc.bind_apply,
      Proc.mapError_apply, executeOnConnection_text]
    cases (E.exec sql [] s.actor.conn.working).1.executed.1 with
    | error e => exact Or.inr ⟨rfl, rfl⟩
    | ok c =>
      simp only [Except.mapError, hk]
      exact Or.inr ⟨rfl, rfl⟩

/-- What `handleScalarI64` makes of the answer. -/
theorem scalarAnswer_snd (sql : String) (c : Option (CursorImpl κ)) (s : Session E) :
    ((match c with
      | none => .fail (.protocol s!"scalar query returned no result set: `{sqlPreview sql}`")
      | some cursor => .ofExcept (scalarOfCursor E cursor) : Handler E (Option ℤ)) s).2 = s := by
  cases c <;> rfl

/-- What `handleListMigrations` makes of the answer. -/
theorem listAnswer_snd (c : Option (CursorImpl κ)) (s : Session E) :
    ((match c with
      | none => .fail (.protocol "list_applied_migrations returned no result set")
      | some cursor => .ofExcept (migrationsOfRows E cursor.rows.2 cursor.rows.1) :
        Handler E (List (ℤ × List UInt8))) s).2 = s := by
  cases c <;> rfl

/-! ## Everything but the connection -/

/-- A property of sessions in which the connection and the wire have no part. -/
structure Framed (I : Session E → Prop) : Prop where
  setConn : ∀ conn s, I s → I (s.setConn conn)
  setWire : ∀ wire s, I s → I (s.setWire wire)

namespace Framed

open Proc

variable {I : Session E → Prop}

theorem log (hI : Framed I) (event : Event A V) (s : Session E) (h : I s) : I (s.log event) :=
  hI.setWire _ s h

theorem lock (message : String) : Keeps I (lock E f message) := .ite (.fail _) (.pure _)

theorem connectionCall (hI : Framed I) (fault : Option OdbcError)
    (effect : Connection C → Connection C) : Keeps I (connectionCall E fault effect) := by
  cases fault with
  | none => exact .modify fun s ↦ hI.setConn _ s
  | some e => exact .fail e

theorem savepointStatement (hI : Framed I) (sql : Sql)
    (effect : Connection C → Option (Connection C)) :
    Keeps I (savepointStatement E f sql effect) := by
  refine .bind (.modify (hI.log _)) fun _ ↦ ?_
  cases f.transactionSql with
  | some e => exact .fail e
  | none =>
    refine .bind .get fun s ↦ ?_
    cases effect s.actor.conn with
    | some conn => exact .bind (.modify (hI.setConn conn)) fun _ ↦ .pure _
    | none => exact .fail _

theorem executeOnConnection (hI : Framed I) (sql : Sql) :
    Keeps I (executeOnConnection E f sql) := by
  cases sql with
  | saveTransaction savepoint => exact hI.savepointStatement _ _
  | rollbackTransaction savepoint => exact hI.savepointStatement _ _
  | text text => exact fun s h ↦ hI.log _ _ (hI.setConn _ s h)

section Transactions

variable (hI : Framed I) (hdepth : ∀ depth s, I s → I (s.setDepth depth))
include hI hdepth

theorem handleBegin : Keeps I (handleBegin E f) := by
  refine .bind .get fun s ↦ .ite ?_ ?_
  · refine .bind (lock _) fun _ ↦ .bind (.mapError (hI.connectionCall _ _)) fun _ ↦ ?_
    exact .modify (hdepth _)
  · refine .bind (lock _) fun _ ↦ .bind (.mapError (hI.executeOnConnection _)) fun _ ↦ ?_
    exact .modify (hdepth _)

theorem handleCommit : Keeps I (handleCommit E f) := by
  refine .bind .get fun s ↦ .ite (.pure _) (.ite ?_ (.modify (hdepth _)))
  refine .bind (lock _) fun _ ↦ .bind (.mapError (hI.connectionCall _ _)) fun _ ↦ ?_
  exact .bind (.mapError (hI.connectionCall _ _)) fun _ ↦ .modify (hdepth _)

theorem handleRollback : Keeps I (handleRollback E f) := by
  refine .bind .get fun s ↦ .ite (.pure _) (.ite ?_ ?_)
  · refine .bind (lock _) fun _ ↦ .bind (.mapError (hI.connectionCall _ _)) fun _ ↦ ?_
    exact .bind (.mapError (hI.connectionCall _ _)) fun _ ↦ .modify (hdepth _)
  · refine .bind (lock _) fun _ ↦ .bind (.mapError (hI.executeOnConnection _)) fun _ ↦ ?_
    exact .modify (hdepth _)

theorem handleStartRollback : Keeps I (handleStartRollback E f) := by
  refine .bind .get fun s ↦ .ite (.pure _) (.ite ?_ ?_)
  · refine .ite (.modify (hdepth _)) ?_
    refine .bind (.ignore (hI.connectionCall _ _)) fun _ ↦ ?_
    exact .bind (.ignore (hI.connectionCall _ _)) fun _ ↦ .modify (hdepth _)
  · refine .ite (.modify (hdepth _)) ?_
    exact .bind (.ignore (hI.executeOnConnection _)) fun _ ↦ .modify (hdepth _)

end Transactions

theorem migrationBatch (hI : Framed I) (texts : MigrationTexts) (sql : String) :
    Keeps I (migrationBatch E f texts sql) := by
  have hpreallocate : Keeps I (preallocate E f) := by
    rw [preallocate]
    cases f.preallocate with
    | some e => exact .fail e
    | none => exact .pure _
  have hexecute : Keeps I (executeStatement E (.executed sql []) sql []) :=
    fun s h ↦ hI.log _ _ (hI.setConn _ s h)
  refine .bind (.mapError hpreallocate) fun _ ↦ .bind hexecute fun p ↦ ?_
  rcases p with ⟨e | cursor, stmt⟩
  · exact .fail _
  · exact fun s h ↦ hI.setWire _ s h

theorem runMigration (hI : Framed I) (texts : MigrationTexts) (sql trackingSql : String)
    (noTx : Bool) : Keeps I (runMigration E f texts sql trackingSql noTx) := by
  refine .bind (lock _) fun _ ↦ ?_
  refine .bind (.skipIf noTx (.mapError (hI.connectionCall _ _))) fun _ ↦ ?_
  refine .bind (.attempt (hI.migrationBatch texts sql)) fun r ↦ ?_
  rcases r with e | u
  · refine .bind (.skipIf noTx ?_) fun _ ↦ .fail e
    exact .bind (.ignore (hI.connectionCall _ _)) fun _ ↦ .ignore (hI.connectionCall _ _)
  · refine .bind (.mapError (hI.executeOnConnection _)) fun _ ↦ .skipIf noTx ?_
    exact .bind (.mapError (hI.connectionCall _ _)) fun _ ↦ .mapError (hI.connectionCall _ _)

theorem handlePing (hI : Framed I) : Keeps I (handlePing E f) :=
  .bind (lock _) fun _ ↦ .bind (.mapError (hI.executeOnConnection _)) fun _ ↦ .pure _

theorem handleExecSql (hI : Framed I) (sql : String) : Keeps I (handleExecSql E f sql) :=
  .bind (lock _) fun _ ↦ .bind (.mapError (hI.executeOnConnection _)) fun _ ↦ .pure _

theorem handleScalarI64 (hI : Framed I) (sql : String) : Keeps I (handleScalarI64 E f sql) := by
  refine .bind (lock _) fun _ ↦ .bind (.mapError (hI.executeOnConnection _)) fun cursor ↦ ?_
  cases cursor with
  | none => exact .fail _
  | some cursor => exact .ofExcept _

theorem handleListMigrations (hI : Framed I) (sql : String) :
    Keeps I (handleListMigrations E f sql) := by
  refine .bind (lock _) fun _ ↦ .bind (.mapError (hI.executeOnConnection _)) fun cursor ↦ ?_
  cases cursor with
  | none => exact .fail _
  | some cursor => exact .ofExcept _

end Framed

theorem framed_stmtCache (cache : E.cache.State) :
    Framed fun s : Session E ↦ s.actor.stmtCache = cache := ⟨fun _ _ h ↦ h, fun _ _ h ↦ h⟩

theorem framed_depth (depth : ℕ) : Framed fun s : Session E ↦ s.actor.transactionDepth = depth :=
  ⟨fun _ _ h ↦ h, fun _ _ h ↦ h⟩

/-! ## The statement cache -/

/-- Preparing touches nothing but the cache, where it can only put a handle that was never executed;
a statement found there stays as it is. -/
theorem handlePrepare_snd (sql : String) (s : Session E) :
    ∃ cache, (handlePrepare E sql s).2 = s.setCache cache ∧
      (cache = E.cache.touch s.actor.stmtCache sql ∨
        ∃ info, cache = E.cache.insert s.actor.stmtCache sql ⟨sql, info, .closed⟩) := by
  rw [handlePrepare]
  cases hget : E.cache.get s.actor.stmtCache sql with
  | some prepared =>
    rw [Proc.bind_apply, lookup_apply, hget]
    exact ⟨_, rfl, Or.inl rfl⟩
  | none =>
    have hsame : s = s.setCache (E.cache.touch s.actor.stmtCache sql) := by
      rw [CacheImpl.touch_of_get_eq_none hget]
      rfl
    rw [Proc.bind_of_ok (lookup_of_get_eq_none hget)]
    simp only [Proc.bind_apply, Proc.mapError_apply, intoPrepared_apply]
    cases E.prepare sql s.actor.conn.working with
    | error e => exact ⟨_, hsame, Or.inl rfl⟩
    | ok info =>
      simp only [Except.mapError, Proc.ofExcept_apply]
      cases describePrepared sql info with
      | error e => exact ⟨_, hsame, Or.inl rfl⟩
      | ok statement =>
        simp only [Proc.get_apply]
        by_cases henabled : E.cache.isEnabled s.actor.stmtCache = true
        · rw [if_pos henabled]
          exact ⟨_, rfl, Or.inr ⟨info, rfl⟩⟩
        · rw [if_neg henabled]
          exact ⟨_, hsame, Or.inl rfl⟩

theorem CacheAfter.keyed {cache cache' : E.cache.State} {useCache : Bool} {sql : String}
    {batch : Batch κ} {walked : Walked κ A V}
    (h : CacheAfter cache useCache sql batch walked cache') (hkeyed : CacheKeyed cache) :
    CacheKeyed cache' := by
  cases h with
  | oneShot _ => exact hkeyed
  | hit _ hget =>
    have hsql := hkeyed _ _ hget
    exact (hkeyed.touch sql).put ((CacheImpl.get_touch _ _).trans hget) hsql
  | miss _ _ info =>
    rw [cacheWalked]
    split
    · split
      · exact hkeyed.insert fun _ ↦ rfl
      · exact hkeyed
    · exact hkeyed

/-! ## Commands -/

namespace Command

/-- The commands that read or write the statement cache. -/
def usesStmtCache : Command A → Bool
  | .execute _ _ _ | .prepare _ | .clearStatementCache => true
  | _ => false

/-- The commands that open or close a level of the transaction. -/
def isTransaction : Command A → Bool
  | .begin | .commit | .rollback | .startRollback => true
  | _ => false

def isMigration : Command A → Bool
  | .applyMigration _ _ _ _ | .revertMigration _ _ _ _ => true
  | _ => false

/-- What a command does to the contents as a statement. -/
def effect (E : Env C κ A V) : Command A → C → C
  | .execute sql args _ => fun contents ↦ (E.exec sql (args.getD []) contents).2
  | .ping => fun contents ↦ (E.exec "SELECT 1" [] contents).2
  | .execSql sql | .scalarI64 sql | .listMigrations sql =>
    fun contents ↦ (E.exec sql [] contents).2
  | _ => id

end Command

namespace ConnectionActor

variable {actor : ConnectionActor E} {job : Job A}

theorem processExecute_actor (room : Option ℕ) (sql : String) (args : Option (List A))
    (persistent : Bool) : (actor.processExecute f room sql args persistent).actor =
      (handleExecute E f sql args persistent ⟨actor, ⟨room, []⟩⟩).2.actor := by
  rw [processExecute]
  rcases handleExecute E f sql args persistent ⟨actor, ⟨room, []⟩⟩ with ⟨e | u, s⟩ <;> rfl

/-- What an execution does to the actor: nothing, but for a lookup in the cache, or the writes of
the statement, and to the cache what the walk of its batch does. -/
theorem step_execute_cases (hkeyed : CacheKeyed actor.stmtCache) (f : Faults) (sql : String)
    (args : Option (List A)) (persistent : Bool) (room : Option ℕ) :
    let session : Session E := ⟨actor, ⟨room, []⟩⟩
    let job : Job A := ⟨.execute sql args persistent, f, room⟩
    (¬ session.Executes f sql args persistent ∧ ∃ cache,
      (cache = actor.stmtCache ∨ cache = E.cache.touch actor.stmtCache sql) ∧
      actor.step job = { actor with stmtCache := cache }) ∨
    session.Executes f sql args persistent ∧ ∃ context cache,
      CacheAfter actor.stmtCache (usesCache args persistent) sql
        (E.exec sql (args.getD []) actor.conn.working).1
        (session.walk context sql (args.getD [])) cache ∧
      actor.step job = { actor with
        conn := actor.conn.write fun contents ↦ (E.exec sql (args.getD []) contents).2,
        stmtCache := cache } := by
  intro session job
  have hstep : actor.step job = (handleExecute E f sql args persistent session).2.actor :=
    processExecute_actor room sql args persistent
  obtain ⟨hnot, e, cache, hcache, hrun⟩ | ⟨hexecutes, context, cache, hafter, hrun⟩ :=
    handleExecute_cases f sql args persistent session hkeyed
  · exact Or.inl ⟨hnot, cache, hcache, by rw [hstep, hrun]; rfl⟩
  · exact Or.inr ⟨hexecutes, context, cache, hafter, by rw [hstep, hrun]; rfl⟩

/-- What preparing a statement does to the actor. -/
theorem step_prepare (actor : ConnectionActor E) (sql : String) (f : Faults) (room : Option ℕ) :
    ∃ cache, actor.step ⟨.prepare sql, f, room⟩ = { actor with stmtCache := cache } ∧
      (cache = E.cache.touch actor.stmtCache sql ∨
        ∃ info, cache = E.cache.insert actor.stmtCache sql ⟨sql, info, .closed⟩) := by
  obtain ⟨cache, hrun, hcases⟩ := handlePrepare_snd sql (⟨actor, ⟨none, []⟩⟩ : Session E)
  refine ⟨cache, ?_, hcases⟩
  show (handlePrepare E sql ⟨actor, ⟨none, []⟩⟩).2.actor = _
  rw [hrun]
  rfl

/-- Most commands have nothing to do with the statement cache: they change the connection, the depth
and the wire. -/
theorem step_framed {I : Session E → Prop} (hI : Framed I)
    (hdepth : ∀ depth s, I s → I (s.setDepth depth)) (hcache : job.command.usesStmtCache = false)
    (h : I ⟨actor, ⟨none, []⟩⟩) : I ⟨actor.step job, ⟨none, []⟩⟩ := by
  obtain ⟨command, f, room⟩ := job
  have hframe {α : Type} (p : Handler E α) (r : Except Error α → Response)
      (hp : Proc.Keeps I p) : I ⟨(actor.runHandler p r).actor, ⟨none, []⟩⟩ :=
    hI.setWire _ _ (hp _ h)
  cases command with
  | execute sql args persistent => cases hcache
  | prepare sql => cases hcache
  | clearStatementCache => cases hcache
  | shutdown => exact h
  | statementCacheSize => exact h
  | ping => exact hframe (handlePing E f) .done hI.handlePing
  | execSql sql => exact hframe (handleExecSql E f sql) .done (hI.handleExecSql sql)
  | scalarI64 sql => exact hframe (handleScalarI64 E f sql) .scalar (hI.handleScalarI64 sql)
  | listMigrations sql =>
    exact hframe (handleListMigrations E f sql) .migrations (hI.handleListMigrations sql)
  | begin => exact hframe (handleBegin E f) .done (hI.handleBegin hdepth)
  | commit => exact hframe (handleCommit E f) .done (hI.handleCommit hdepth)
  | rollback => exact hframe (handleRollback E f) .done (hI.handleRollback hdepth)
  | startRollback =>
    exact hframe (handleStartRollback E f) (fun _ ↦ .none) (hI.handleStartRollback hdepth)
  | applyMigration sql insertSql version noTx =>
    exact hframe (runMigration E f _ sql insertSql noTx) .done (hI.runMigration _ _ _ _)
  | revertMigration sql deleteSql version noTx =>
    exact hframe (runMigration E f _ sql deleteSql noTx) .done (hI.runMigration _ _ _ _)

theorem step_stmtCache (h : job.command.usesStmtCache = false) :
    (actor.step job).stmtCache = actor.stmtCache :=
  step_framed (framed_stmtCache actor.stmtCache) (fun _ _ h ↦ h) h rfl

theorem step_cacheKeyed (h : CacheKeyed actor.stmtCache) (job : Job A) :
    CacheKeyed (actor.step job).stmtCache := by
  by_cases hcache : job.command.usesStmtCache = false
  · rw [step_stmtCache hcache]
    exact h
  obtain ⟨command, f, room⟩ := job
  cases command with
  | execute sql args persistent =>
    obtain ⟨-, cache, hlookup, hstep⟩ | ⟨-, context, cache, hafter, hstep⟩ :=
      step_execute_cases h f sql args persistent room
    · rw [hstep]
      obtain rfl | rfl := hlookup
      · exact h
      · exact h.touch sql
    · rw [hstep]
      exact hafter.keyed h
  | prepare sql =>
    obtain ⟨cache, hstep, hcases⟩ := actor.step_prepare sql f room
    rw [hstep]
    obtain rfl | ⟨info, rfl⟩ := hcases
    · exact h.touch sql
    · exact h.insert fun _ ↦ rfl
  | clearStatementCache => exact CacheImpl.all_clear _
  | _ => exact absurd rfl hcache

/-- The cache is keyed on every actor that was ever connected. -/
theorem run_cacheKeyed (contents : C) (capacity : ℕ) (settings : MssqlBufferSettings)
    (jobs : List (Job A)) :
    CacheKeyed (jobs.foldl step (.connect E contents capacity settings)).stmtCache := by
  have hconnect : CacheKeyed (connect E contents capacity settings).stmtCache :=
    CacheImpl.all_new capacity
  exact List.foldlRecOn (motive := fun actor ↦ CacheKeyed actor.stmtCache) jobs step hconnect
    fun actor h job _ ↦ step_cacheKeyed h job

/-- The buffer settings are those the connection was opened with. -/
theorem step_bufferSettings (hkeyed : CacheKeyed actor.stmtCache) (job : Job A) :
    (actor.step job).bufferSettings = actor.bufferSettings := by
  by_cases hcache : job.command.usesStmtCache = false
  · have hI : Framed fun s : Session E ↦ s.actor.bufferSettings = actor.bufferSettings :=
      ⟨fun _ _ h ↦ h, fun _ _ h ↦ h⟩
    exact step_framed hI (fun _ _ h ↦ h) hcache rfl
  obtain ⟨command, f, room⟩ := job
  cases command with
  | execute sql args persistent =>
    obtain ⟨-, cache, -, hstep⟩ | ⟨-, context, cache, -, hstep⟩ :=
      step_execute_cases hkeyed f sql args persistent room
    · rw [hstep]
    · rw [hstep]
  | prepare sql =>
    obtain ⟨cache, hstep, -⟩ := actor.step_prepare sql f room
    rw [hstep]
  | clearStatementCache => rfl
  | _ => exact absurd rfl hcache

theorem run_bufferSettings (contents : C) (capacity : ℕ) (settings : MssqlBufferSettings)
    (jobs : List (Job A)) :
    (jobs.foldl step (.connect E contents capacity settings)).bufferSettings = settings := by
  have hconnect : CacheKeyed (connect E contents capacity settings).stmtCache ∧
      (connect E contents capacity settings).bufferSettings = settings :=
    ⟨CacheImpl.all_new capacity, rfl⟩
  have hrun : CacheKeyed (jobs.foldl step (.connect E contents capacity settings)).stmtCache ∧
      (jobs.foldl step (.connect E contents capacity settings)).bufferSettings = settings := by
    refine List.foldlRecOn jobs step (motive := fun actor ↦
      CacheKeyed actor.stmtCache ∧ actor.bufferSettings = settings) hconnect ?_
    exact fun actor h job _ ↦
      ⟨step_cacheKeyed h.1 job, (step_bufferSettings h.1 job).trans h.2⟩
  exact hrun.2

/-- **A statement writes.**  Every command that is not about transactions changes the contents as
its statement does, or, if it came to no execution, not at all. -/
theorem step_written (hkeyed : CacheKeyed actor.stmtCache) (job : Job A)
    (htx : job.command.isTransaction = false) (hmig : job.command.isMigration = false) :
    Written (job.command.effect E) actor (actor.step job) ∨
      Written id actor (actor.step job) ∧ (job.faults.lock = true ∨
        job.faults.preallocate ≠ none ∨ ∃ sql e, E.prepare sql actor.conn.working = .error e) := by
  obtain ⟨command, f, room⟩ := job
  have hsingle {sql : String} {actor' : ConnectionActor E}
      (h : actor' = actor ∧ f.lock = true ∨
        Written (fun contents ↦ (E.exec sql [] contents).2) actor actor') :
      Written (fun contents ↦ (E.exec sql [] contents).2) actor actor' ∨
        Written id actor actor' ∧ (f.lock = true ∨ f.preallocate ≠ none ∨
          ∃ sql e, E.prepare sql actor.conn.working = .error e) := by
    obtain ⟨rfl, hl⟩ | hw := h
    · exact Or.inr ⟨.refl _, Or.inl hl⟩
    · exact Or.inl hw
  cases command with
  | execute sql args persistent =>
    obtain ⟨hnot, cache, -, hstep⟩ | ⟨-, context, cache, -, hstep⟩ :=
      step_execute_cases hkeyed f sql args persistent room
    · rw [hstep]
      refine Or.inr ⟨⟨(Store.write_id _).symm, rfl⟩, ?_⟩
      rcases Session.not_executes hnot with hl | hp | ⟨-, -, e', he'⟩
      · exact Or.inl hl
      · exact Or.inr (Or.inl hp)
      · exact Or.inr (Or.inr ⟨sql, e', he'⟩)
    · rw [hstep]
      exact Or.inl ⟨rfl, rfl⟩
  | prepare sql =>
    obtain ⟨cache, hstep, -⟩ := actor.step_prepare sql f room
    rw [hstep]
    exact Or.inl ⟨(Store.write_id _).symm, rfl⟩
  | ping => exact hsingle (singleStatement (k := fun _ ↦ pure ()) (fun _ _ ↦ rfl) _)
  | execSql sql => exact hsingle (singleStatement (k := fun _ ↦ pure ()) (fun _ _ ↦ rfl) _)
  | scalarI64 sql => exact hsingle (singleStatement (scalarAnswer_snd sql) _)
  | listMigrations sql => exact hsingle (singleStatement listAnswer_snd _)
  | shutdown => exact Or.inl (.refl _)
  | statementCacheSize => exact Or.inl (.refl _)
  | clearStatementCache => exact Or.inl ⟨(Store.write_id _).symm, rfl⟩
  | begin => cases htx
  | commit => cases htx
  | rollback => cases htx
  | startRollback => cases htx
  | applyMigration sql insertSql version noTx => cases hmig
  | revertMigration sql deleteSql version noTx => cases hmig

end ConnectionActor

end MssqlOdbc
