import MssqlOdbc.Connection.Free
import MssqlOdbc.Execute.Unprepared

/-!
# What the database does not depend on

The actor reads its statement cache and its buffer settings to answer a command, and how far it
walks a batch depends on the consumer.  The connection does not depend on any of this: two actors
that may differ in the cache and the settings (`SameContents`), given the same commands, do the same
to the contents, to the transaction mode and to the depth, whatever their consumers take.  So the
contents after an interleaving are determined by the commands alone (`database_confluent`), as long
as the connection is free whenever a command is processed: what a driver refuses on a busy
connection does depend on the cache and on the consumers.

The handlers that have nothing to do with the cache commute with a change of it.  An execution asks
the server to prepare the statement or not, and this is the one place where the server has a say:
what it refuses to prepare must not have an effect when it is executed.
-/

set_option autoImplicit false

namespace MssqlOdbc

open TxStore Channel Proc

variable {C κ A V : Type} {E : Env C κ A V} {f : Faults}

/-! ## Handlers that leave the cache alone -/

/-- The session of an actor with another cache and other settings. -/
def Session.configure (cache : E.cache.State) (settings : MssqlBufferSettings) (s : Session E) :
    Session E :=
  { s with actor := { s.actor with stmtCache := cache, bufferSettings := settings } }

section Configure

variable (cache : E.cache.State) (settings : MssqlBufferSettings)

/-- A handler that takes no notice of the cache and the settings. -/
abbrev Unconfigured {ε α : Type} (p : Proc (Session E) ε α) : Prop :=
  Commutes (Session.configure cache settings) p

namespace Unconfigured

theorem lock (message : String) : Unconfigured cache settings (lock E f message) :=
  .ite (.fail _) (.pure _)

theorem connectionCall (fault : Option OdbcError) (effect : Connection C → Connection C) :
    Unconfigured cache settings (connectionCall E fault effect) := by
  cases fault with
  | none => exact .modify fun _ ↦ rfl
  | some e => exact .fail e

theorem savepointStatement (sql : Sql) (effect : Connection C → Option (Connection C)) :
    Unconfigured cache settings (savepointStatement E f sql effect) := by
  refine .bind (.modify fun _ ↦ rfl) fun _ ↦ ?_
  cases f.transactionSql with
  | some e => exact .fail e
  | none =>
    refine .get_bind (fun _ ↦ rfl) fun s ↦ ?_
    cases effect s.actor.conn with
    | some conn => exact .bind (.modify fun _ ↦ rfl) fun _ ↦ .pure _
    | none => exact .fail _

theorem executeOnConnection (sql : Sql) :
    Unconfigured cache settings (executeOnConnection E f sql) := by
  cases sql with
  | saveTransaction savepoint => exact savepointStatement cache settings _ _
  | rollbackTransaction savepoint => exact savepointStatement cache settings _ _
  | text text => exact fun _ ↦ rfl

theorem handleBegin : Unconfigured cache settings (handleBegin E f) := by
  refine .get_bind (fun _ ↦ rfl) fun s ↦ .ite ?_ ?_
  · refine .bind (lock _ _ _) fun _ ↦ .bind (.mapError (connectionCall _ _ _ _)) fun _ ↦ ?_
    exact .modify fun _ ↦ rfl
  · refine .bind (lock _ _ _) fun _ ↦ .bind (.mapError (executeOnConnection _ _ _)) fun _ ↦ ?_
    exact .modify fun _ ↦ rfl

theorem handleCommit : Unconfigured cache settings (handleCommit E f) := by
  refine .get_bind (fun _ ↦ rfl) fun s ↦ .ite (.pure _) (.ite ?_ (.modify fun _ ↦ rfl))
  refine .bind (lock _ _ _) fun _ ↦ .bind (.mapError (connectionCall _ _ _ _)) fun _ ↦ ?_
  exact .bind (.mapError (connectionCall _ _ _ _)) fun _ ↦ .modify fun _ ↦ rfl

theorem handleRollback : Unconfigured cache settings (handleRollback E f) := by
  refine .get_bind (fun _ ↦ rfl) fun s ↦ .ite (.pure _) (.ite ?_ ?_)
  · refine .bind (lock _ _ _) fun _ ↦ .bind (.mapError (connectionCall _ _ _ _)) fun _ ↦ ?_
    exact .bind (.mapError (connectionCall _ _ _ _)) fun _ ↦ .modify fun _ ↦ rfl
  · refine .bind (lock _ _ _) fun _ ↦ .bind (.mapError (executeOnConnection _ _ _)) fun _ ↦ ?_
    exact .modify fun _ ↦ rfl

theorem handleStartRollback : Unconfigured cache settings (handleStartRollback E f) := by
  refine .get_bind (fun _ ↦ rfl) fun s ↦ .ite (.pure _) (.ite ?_ ?_)
  · refine .ite (.modify fun _ ↦ rfl) ?_
    refine .bind (.ignore (connectionCall _ _ _ _)) fun _ ↦ ?_
    exact .bind (.ignore (connectionCall _ _ _ _)) fun _ ↦ .modify fun _ ↦ rfl
  · refine .ite (.modify fun _ ↦ rfl) ?_
    exact .bind (.ignore (executeOnConnection _ _ _)) fun _ ↦ .modify fun _ ↦ rfl

theorem migrationBatch (texts : MigrationTexts) (sql : String) :
    Unconfigured cache settings (migrationBatch E f texts sql) := by
  have hpreallocate : Unconfigured cache settings (preallocate E f) := by
    rw [preallocate]
    cases f.preallocate with
    | some e => exact .fail e
    | none => exact .pure _
  refine .bind (.mapError hpreallocate) fun _ ↦ .bind (fun _ ↦ rfl) fun p ↦ ?_
  rcases p with ⟨e | cursor, stmt⟩
  · exact .fail _
  · exact fun _ ↦ rfl

theorem runMigration (texts : MigrationTexts) (sql trackingSql : String) (noTx : Bool) :
    Unconfigured cache settings (runMigration E f texts sql trackingSql noTx) := by
  refine .bind (lock _ _ _) fun _ ↦ ?_
  refine .bind (.skipIf noTx (.mapError (connectionCall _ _ _ _))) fun _ ↦ ?_
  refine .bind (.attempt (migrationBatch _ _ texts sql)) fun r ↦ ?_
  rcases r with e | u
  · refine .bind (.skipIf noTx ?_) fun _ ↦ .fail e
    exact .bind (.ignore (connectionCall _ _ _ _)) fun _ ↦ .ignore (connectionCall _ _ _ _)
  · refine .bind (.mapError (executeOnConnection _ _ _)) fun _ ↦ .skipIf noTx ?_
    exact .bind (.mapError (connectionCall _ _ _ _)) fun _ ↦ .mapError (connectionCall _ _ _ _)

theorem handlePing : Unconfigured cache settings (handlePing E f) :=
  .bind (lock _ _ _) fun _ ↦ .bind (.mapError (executeOnConnection _ _ _)) fun _ ↦ .pure _

theorem handleExecSql (sql : String) : Unconfigured cache settings (handleExecSql E f sql) :=
  .bind (lock _ _ _) fun _ ↦ .bind (.mapError (executeOnConnection _ _ _)) fun _ ↦ .pure _

theorem handleScalarI64 (sql : String) : Unconfigured cache settings (handleScalarI64 E f sql) := by
  refine .bind (lock _ _ _) fun _ ↦ .bind (.mapError (executeOnConnection _ _ _)) fun cursor ↦ ?_
  cases cursor with
  | none => exact .fail _
  | some cursor => exact .ofExcept _

theorem handleListMigrations (sql : String) :
    Unconfigured cache settings (handleListMigrations E f sql) := by
  refine .bind (lock _ _ _) fun _ ↦ .bind (.mapError (executeOnConnection _ _ _)) fun cursor ↦ ?_
  cases cursor with
  | none => exact .fail _
  | some cursor => exact .ofExcept _

end Unconfigured

end Configure

/-! ## One command -/

/-- The two actors differ at most in the statement cache and in the settings. -/
structure SameContents (actor actor' : ConnectionActor E) : Prop where
  conn : actor.conn = actor'.conn
  depth : actor.transactionDepth = actor'.transactionDepth

/-- Whether an execution comes to nothing whatever the server says. -/
def Faults.blocksExecute (f : Faults) (args : Option (List A)) (persistent : Bool) : Bool :=
  if usesCache args persistent then f.lock else f.preallocate.isSome

def Command.isCacheSize : Command A → Bool
  | .statementCacheSize => true
  | _ => false

namespace ConnectionActor

variable {actor actor' : ConnectionActor E}

/-- An actor with another cache and other settings. -/
def configure (actor : ConnectionActor E) (cache : E.cache.State)
    (settings : MssqlBufferSettings) : ConnectionActor E :=
  { actor with stmtCache := cache, bufferSettings := settings }

theorem runHandler_configure (actor : ConnectionActor E) (cache : E.cache.State)
    (settings : MssqlBufferSettings) {α : Type} {p : Handler E α}
    (hp : Unconfigured cache settings p) (respond : Except Error α → Response) :
    (actor.configure cache settings).runHandler p respond =
      { actor.runHandler p respond with
        actor := (actor.runHandler p respond).actor.configure cache settings } := by
  have hrun : p (Session.configure cache settings ⟨actor, ⟨none, []⟩⟩) = _ := hp ⟨actor, ⟨none, []⟩⟩
  have hsession : (⟨actor.configure cache settings, ⟨none, []⟩⟩ : Session E) =
    Session.configure cache settings ⟨actor, ⟨none, []⟩⟩ := rfl
  rw [runHandler, hsession, hrun]
  rfl

/-- Most commands take no notice of the cache and of the settings. -/
theorem process_configure (actor : ConnectionActor E) (cache : E.cache.State)
    (settings : MssqlBufferSettings) {job : Job A} (hcache : job.command.usesStmtCache = false)
    (hsize : job.command.isCacheSize = false) :
    (actor.configure cache settings).process job =
      { actor.process job with
        actor := (actor.process job).actor.configure cache settings } := by
  obtain ⟨command, f, room⟩ := job
  cases command with
  | execute sql args persistent => cases hcache
  | prepare sql => cases hcache
  | clearStatementCache => cases hcache
  | statementCacheSize => cases hsize
  | shutdown => rfl
  | ping => exact runHandler_configure _ _ _ (Unconfigured.handlePing _ _) .done
  | execSql sql => exact runHandler_configure _ _ _ (Unconfigured.handleExecSql _ _ sql) .done
  | scalarI64 sql => exact runHandler_configure _ _ _ (Unconfigured.handleScalarI64 _ _ sql) .scalar
  | listMigrations sql =>
    exact runHandler_configure _ _ _ (Unconfigured.handleListMigrations _ _ sql) .migrations
  | begin => exact runHandler_configure _ _ _ (Unconfigured.handleBegin _ _) .done
  | commit => exact runHandler_configure _ _ _ (Unconfigured.handleCommit _ _) .done
  | rollback => exact runHandler_configure _ _ _ (Unconfigured.handleRollback _ _) .done
  | startRollback =>
    exact runHandler_configure _ _ _ (Unconfigured.handleStartRollback _ _) fun _ ↦ .none
  | applyMigration sql insertSql version noTx =>
    exact runHandler_configure _ _ _ (Unconfigured.runMigration _ _ _ _ _ _) .done
  | revertMigration sql deleteSql version noTx =>
    exact runHandler_configure _ _ _ (Unconfigured.runMigration _ _ _ _ _ _) .done

theorem step_configure (actor : ConnectionActor E) (cache : E.cache.State)
    (settings : MssqlBufferSettings) {job : Job A} (hcache : job.command.usesStmtCache = false) :
    (actor.configure cache settings).step job = (actor.step job).configure cache settings := by
  cases hsize : job.command.isCacheSize with
  | false => rw [step, process_configure actor cache settings hcache hsize, step]
  | true =>
    obtain ⟨command, f, room⟩ := job
    cases command with
    | statementCacheSize => rfl
    | _ => cases hsize

/-- **What an execution does to the database.**  It writes what its statement writes unless a call
fails; where the server refuses to prepare the statement, that is nothing. -/
theorem step_execute_conn (hE : E.PreparesSoundly) (hkeyed : CacheKeyed actor.stmtCache)
    (f : Faults) (sql : String) (args : Option (List A)) (persistent : Bool) (room : Option ℕ) :
    let actor' := actor.step ⟨.execute sql args persistent, f, room⟩
    actor'.transactionDepth = actor.transactionDepth ∧ actor'.conn =
      if f.blocksExecute args persistent then actor.conn
      else actor.conn.write fun contents ↦ (E.exec sql (args.getD []) contents).2 := by
  intro actor'
  obtain ⟨hnot, cache, -, hstep⟩ | ⟨hexecutes, context, cache, -, hstep⟩ :=
    step_execute_cases hkeyed f sql args persistent room
  · have hstep' : actor' = _ := hstep
    refine ⟨by rw [hstep'], ?_⟩
    rw [hstep', Faults.blocksExecute]
    rw [Session.Executes] at hnot
    by_cases hcache : usesCache args persistent = true
    · rw [if_pos hcache] at hnot ⊢
      cases hl : f.lock with
      | true => rfl
      | false =>
        -- the server refuses
        rw [not_and, Classical.not_imp] at hnot
        obtain ⟨-, hprepare⟩ := hnot hl
        cases hp : E.prepare sql actor.conn.working with
        | ok info => exact absurd ⟨info, hp⟩ hprepare
        | error e =>
          obtain ⟨-, hnothing⟩ := hE.refused sql (args.getD []) _ e hp
          refine Eq.symm ?_
          exact Store.write_of_working (f := fun contents ↦ (E.exec sql (args.getD []) contents).2)
            hnothing
    · rw [if_neg hcache] at hnot ⊢
      rw [if_pos (Option.isSome_iff_ne_none.2 hnot)]
  · have hstep' : actor' = _ := hstep
    refine ⟨by rw [hstep'], ?_⟩
    rw [hstep', Faults.blocksExecute]
    rw [Session.Executes] at hexecutes
    by_cases hcache : usesCache args persistent = true
    · rw [if_pos hcache] at hexecutes ⊢
      rw [hexecutes.1]
      rfl
    · rw [if_neg hcache] at hexecutes ⊢
      rw [hexecutes]
      rfl

end ConnectionActor

theorem SameContents.eq_configure {actor actor' : ConnectionActor E}
    (h : SameContents actor actor') :
    actor' = actor.configure actor'.stmtCache actor'.bufferSettings := by
  obtain ⟨conn, cache, depth, settings⟩ := actor
  obtain ⟨conn', cache', depth', settings'⟩ := actor'
  obtain ⟨rfl, rfl⟩ := h
  rfl

/-- Only an execution has a stream for a consumer to go from. -/
theorem ConnectionActor.process_room (actor : ConnectionActor E) {command : Command A}
    (hcache : command.usesStmtCache = false) (f : Faults) (room room' : Option ℕ) :
    actor.process ⟨command, f, room⟩ = actor.process ⟨command, f, room'⟩ := by
  cases command with
  | execute sql args persistent => cases hcache
  | _ => rfl

/-- A command does the same to the database on both actors, whatever its consumers take. -/
theorem SameContents.step {actor actor' : ConnectionActor E} (hE : E.PreparesSoundly)
    (h : SameContents actor actor')
    (hkeyed : CacheKeyed actor.stmtCache) (hkeyed' : CacheKeyed actor'.stmtCache)
    (command : Command A) (f : Faults) (room room' : Option ℕ) :
    SameContents (actor.step ⟨command, f, room⟩) (actor'.step ⟨command, f, room'⟩) := by
  by_cases hcache : command.usesStmtCache = false
  · have hroom : actor'.step ⟨command, f, room'⟩ = actor'.step ⟨command, f, room⟩ :=
      congrArg Processed.actor (actor'.process_room hcache f room' room)
    rw [hroom, h.eq_configure, ConnectionActor.step_configure actor _ _ hcache]
    exact ⟨rfl, rfl⟩
  · cases command with
    | execute sql args persistent =>
      obtain ⟨hdepth, hconn⟩ :=
        ConnectionActor.step_execute_conn hE hkeyed f sql args persistent room
      obtain ⟨hdepth', hconn'⟩ :=
        ConnectionActor.step_execute_conn hE hkeyed' f sql args persistent room'
      exact ⟨by rw [hconn, hconn', h.conn], by rw [hdepth, hdepth', h.depth]⟩
    | prepare sql =>
      obtain ⟨cache, hstep, -⟩ := actor.step_prepare sql f room
      obtain ⟨cache', hstep', -⟩ := actor'.step_prepare sql f room'
      rw [hstep, hstep']
      exact ⟨h.conn, h.depth⟩
    | clearStatementCache => exact ⟨h.conn, h.depth⟩
    | _ => exact absurd rfl hcache

/-! ## Runs -/

/-- Two actors that process the same commands, with any consumers, keep the same database. -/
theorem sameContents_foldl (hE : E.PreparesSoundly) {actor actor' : ConnectionActor E}
    (h : SameContents actor actor') (hkeyed : CacheKeyed actor.stmtCache)
    (hkeyed' : CacheKeyed actor'.stmtCache) {past past' : List (Request A × Option ℕ)}
    (hpast : past.map Prod.fst = past'.map Prod.fst) :
    SameContents ((ActorSystem.jobsOf past).foldl ConnectionActor.step actor)
      ((ActorSystem.jobsOf past').foldl ConnectionActor.step actor') := by
  induction past generalizing past' actor actor' with
  | nil =>
    obtain rfl := List.map_eq_nil_iff.1 hpast.symm
    exact h
  | cons p past ih =>
    obtain ⟨p', rest, rfl, hrequest, hrest⟩ := List.map_eq_cons_iff.1 hpast.symm
    have hstep : SameContents (actor.step (p.1.job p.2)) (actor'.step (p'.1.job p'.2)) := by
      rw [hrequest]
      exact h.step hE hkeyed hkeyed' _ _ _ _
    exact ih hstep (ConnectionActor.step_cacheKeyed hkeyed _)
      (ConnectionActor.step_cacheKeyed hkeyed' _) hrest.symm

/-- **The database is confluent.**  Two connections are opened on the same contents, with any
statement cache capacities and any fetch settings, and are sent the same commands.  However their
actors and consumers take turns, once the commands are processed the two databases are the same:
committed and pending contents, transaction mode, savepoints and nesting depth.  No command may have
left results on a cached handle; whatever happens on a busy connection may differ. -/
theorem database_confluent (hE : E.PreparesSoundly) (contents : C) {capacity capacity' : ℕ}
    {settings settings' : MssqlBufferSettings} {busy busy' : Busy E} {c c' : ActorSystem E}
    (h : ActorSystem.ReachableIfFree busy (.connect E contents capacity settings) c)
    (h' : ActorSystem.ReachableIfFree busy' (.connect E contents capacity' settings') c')
    (hfree : c.AlwaysFree) (hfree' : c'.AlwaysFree) {idle idle' : ConnectionActor E}
    (hidle : c.server = .inl idle) (hidle' : c'.server = .inl idle')
    (hjobs : c.jobs.take c.turn = c'.jobs.take c'.turn) :
    idle.conn = idle'.conn ∧ idle.transactionDepth = idle'.transactionDepth := by
  obtain ⟨past, hpast⟩ :=
    linearized_of_reaches (ActorSystem.reachable_of_free (.connect _ _ _ _) h hfree)
  obtain ⟨past', hpast'⟩ :=
    linearized_of_reaches (ActorSystem.reachable_of_free (.connect _ _ _ _) h' hfree')
  have hserver := hpast.server
  have hserver' := hpast'.server
  rw [hidle] at hserver
  rw [hidle'] at hserver'
  have hsame : past.map Prod.fst = past'.map Prod.fst := by
    rw [List.prefix_iff_eq_take.1 hpast.jobs, List.prefix_iff_eq_take.1 hpast'.jobs,
      List.length_map, List.length_map, hpast.length_past, hpast'.length_past, hjobs]
  have hdatabase := sameContents_foldl hE
    (⟨rfl, rfl⟩ : SameContents (.connect E contents capacity settings)
      (.connect E contents capacity' settings')) (CacheImpl.all_new capacity)
    (CacheImpl.all_new capacity') hsame
  rw [hserver.1, hserver'.1, ActorSystem.after_eq, ActorSystem.after_eq]
  exact ⟨hdatabase.conn, hdatabase.depth⟩

theorem free_refusesTypo (actor : ConnectionActor refusesTypo) (jobs : List (Job ℤ)) :
    Run.AllSteps ConnectionActor.step ConnectionActor.LeavesIdle actor jobs := by
  refine actor.leavesIdle_of_single (fun sql parameters contents ↦ ?_) jobs
  show (ite _ _ _ : Batch ℤ).rest = [] ∧ ∀ result, (ite _ _ _ : Batch ℤ).head = .ok result → _
  split
  · exact ⟨rfl, by rintro result ⟨⟩⟩
  · refine ⟨rfl, ?_⟩
    rintro result ⟨⟩
    rfl

/-- On this server any consumers come up on connections that are always free. -/
theorem exists_free_refusesTypo (capacity : ℕ) (settings : MssqlBufferSettings)
    (past : List (Request ℤ × Option ℕ)) : ∃ c : ActorSystem refusesTypo,
    ActorSystem.ReachableIfFree (refusesBusy refusesTypo)
        (.connect refusesTypo [] capacity settings) c ∧
      c.AlwaysFree ∧ c.jobs = past.map Prod.fst ∧ c.turn = past.length ∧
      ∃ idle, c.server = .inl idle := by
  obtain ⟨c, h, hjobs, hfinished, hidle, -⟩ := exists_reaches ConnectionActor.serve
    Processed.actor (show 0 < responseCapacity by decide)
    (.connect refusesTypo [] capacity settings) past
  have hfree : ActorSystem.AlwaysFree c := by
    rw [ActorSystem.sequential_eq] at hfinished
    exact (ActorSystem.alwaysFree_iff (.connect _ _ _ _) hfinished).2 (free_refusesTypo _ _)
  refine ⟨c, ActorSystem.reachableIfFree_of_free _ (.connect _ _ _ _) h hfree, hfree, hjobs, ?_,
    _, hidle⟩
  rw [System.turn, hfinished, List.length_map, length_sequential]

/-- One consumer reads everything, with an unbuffered fetch and a cache for one statement; the other
goes before the first item, with a buffered fetch and no cache. -/
theorem database_confluent_refusesTypo :
    let request : Request ℤ := ⟨.execute "UPDATE t" (some [1]) true, .none, rfl⟩
    ∃ (c c' : ActorSystem refusesTypo) (idle idle' : ConnectionActor refusesTypo),
      c.jobs = [request] ∧ c'.jobs = [request] ∧ c.server = .inl idle ∧ c'.server = .inl idle' ∧
      idle.conn = idle'.conn ∧ idle.transactionDepth = idle'.transactionDepth := by
  intro request
  obtain ⟨c, h, hfree, hjobs, hturn, idle, hidle⟩ :=
    exists_free_refusesTypo 1 default [(request, none)]
  obtain ⟨c', h', hfree', hjobs', hturn', idle', hidle'⟩ :=
    exists_free_refusesTypo 0 ⟨1, some 8⟩ [(request, some 0)]
  refine ⟨c, c', idle, idle', hjobs, hjobs', hidle, hidle', ?_⟩
  exact database_confluent preparesSoundly_refusesTypo [] h h' hfree hfree' hidle hidle'
    (by rw [hjobs, hjobs', hturn, hturn']; rfl)

end MssqlOdbc
