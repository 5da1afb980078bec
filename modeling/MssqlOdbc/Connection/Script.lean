import MssqlOdbc.Connection.Interleaving
import MssqlOdbc.Diagnostics

/-!
# What the server is asked

Every command has a script: the statements it has the server execute, with their parameters.  A
command that fails half way may leave the rest of its script out; it never asks for anything else,
and it never asks twice.  So however the actor and its consumers take turns, the server executes
what was asked for in the order in which it was asked for, each statement at most once, and exactly
once if the command succeeds (`statements_scripted`).

For the handlers this is `Proc.Logs` with the statements on the wire for a log; for the walk of a
batch, which only sends and steps on, it is that the log stays as it is.
-/

set_option autoImplicit false

namespace MssqlOdbc

open TxStore Channel

variable {C κ A V : Type} {E : Env C κ A V} {f : Faults}

/-! ## Statements -/

/-- The statements the server is asked to execute, with their parameters. -/
def Wire.statements (trace : List (Event A V)) : List (Sql × List A) :=
  trace.filterMap fun
    | .executed sql parameters => some (.text sql, parameters)
    | .executedOnConnection sql => some (sql, [])
    | _ => none

theorem Wire.statements_concat (trace : List (Event A V)) (event : Event A V) :
    statements (trace ++ [event]) = statements trace ++ statements [event] :=
  List.filterMap_append

/-- The statements of the command at hand so far. -/
def Session.statements (s : Session E) : List (Sql × List A) := Wire.statements s.wire.trace

/-- The script of a command, at a depth of transactions. -/
def Command.script (depth : ℕ) : Command A → List (Sql × List A)
  | .execute sql args _ => [(.text sql, args.getD [])]
  | .ping => [(.text "SELECT 1", [])]
  | .begin => if depth = 0 then [] else [(.saveTransaction (savepointName depth), [])]
  | .rollback | .startRollback =>
    if depth ≤ 1 then [] else [(.rollbackTransaction (savepointName (depth - 1)), [])]
  | .execSql sql | .scalarI64 sql | .listMigrations sql => [(.text sql, [])]
  | .applyMigration sql trackingSql _ _ | .revertMigration sql trackingSql _ _ =>
    [(.text sql, []), (.text trackingSql, [])]
  | .prepare _ | .commit | .shutdown | .statementCacheSize | .clearStatementCache => []

/-! ## The walk of a batch -/

section Walk

variable {settings : MssqlBufferSettings}

theorem Wire.statements_send (item : ExecuteResult V) (wire : Wire A V) :
    statements (wire.send item).2.trace = statements wire.trace := by
  rw [send]
  split
  · exact (statements_concat _ _).trans (List.append_nil _)
  · rfl
  · exact (statements_concat _ _).trans (List.append_nil _)

theorem Wire.statements_moreResults (status : SqlResult Unit) (wire : Wire A V) :
    statements (wire.log (.moreResults status)).trace = statements wire.trace :=
  (statements_concat _ _).trans (List.append_nil _)

theorem Wire.statements_sendRows (rows : List (MssqlRow V)) (wire : Wire A V) :
    statements (wire.sendRows rows).2.trace = statements wire.trace := by
  induction rows generalizing wire with
  | nil => rfl
  | cons row rows ih =>
    have hsend := statements_send (.ok (.inr row)) wire
    rw [sendRows_cons]
    rcases hsent : wire.send (.ok (.inr row)) with ⟨_ | _, wire'⟩
    · rw [hsent] at hsend
      exact hsend
    · rw [hsent] at hsend
      exact (ih wire').trans hsend

theorem Reading.statements_send (reading : Reading V) (wire : Wire A V) :
    Wire.statements (reading.send wire).2.trace = Wire.statements wire.trace := by
  have hrows := Wire.statements_sendRows reading.rows.items wire
  rw [send]
  rcases hsent : wire.sendRows reading.rows.items with ⟨_ | _, wire'⟩
  · rw [hsent] at hrows
    exact hrows
  · rw [hsent] at hrows
    dsimp only
    split
    · exact hrows
    · exact (Wire.statements_send _ _).trans hrows

theorem statements_visitResult (stmt : StmtHandle κ) (wire : Wire A V) :
    Wire.statements (visitResult E settings stmt wire).2.2.trace = Wire.statements wire.trace := by
  rw [visitResult]
  split
  · rfl
  · split
    · rfl
    · rename_i rowsAffected _
      have hsend := Wire.statements_send (.ok (.inl ⟨(max rowsAffected 0).toNat⟩)) wire
      rcases hsent : wire.send (.ok (.inl ⟨(max rowsAffected 0).toNat⟩)) with ⟨_ | _, wire'⟩
      · rw [hsent] at hsend
        exact hsend
      · rw [hsent] at hsend
        exact hsend
  · have hsend := (stmt.result.reading E settings).statements_send wire
    rw [← streamOneResultSet_eq] at hsend
    rcases hstream : streamOneResultSet E settings stmt.result wire with ⟨_ | _ | _, wire'⟩
    · rw [hstream] at hsend
      exact hsend
    · rw [hstream] at hsend
      exact hsend
    · rw [hstream] at hsend
      exact hsend

/-- Walking a batch asks for nothing. -/
theorem statements_driveResultSets (stmt : StmtHandle κ) (wire : Wire A V) :
    Wire.statements (driveResultSets E settings stmt wire).wire.trace =
      Wire.statements wire.trace := by
  induction hn : stmt.unread.length using Nat.strongRecOn generalizing stmt wire with
  | ind n ih =>
  have hvisit : Wire.statements (visitResult E settings stmt wire).2.2.trace = _ :=
    statements_visitResult stmt wire
  rw [driveResultSets_eq]
  rcases hv : visitResult E settings stmt wire with ⟨_ | outcome, stmt', wire'⟩
  · obtain rfl := visitResult_next hv
    rw [hv] at hvisit
    have hmore (status : SqlResult Unit) := Wire.statements_moreResults status wire'
    rcases hm : stmt'.moreResults with ⟨status, next⟩
    simp only [hm]
    cases status with
    | success =>
      have hlt : next.unread.length < n := hn ▸ moreResults_unread_lt hm (Or.inl rfl)
      exact (ih _ hlt next _ rfl).trans ((hmore _).trans hvisit)
    | successWithInfo =>
      have hlt : next.unread.length < n := hn ▸ moreResults_unread_lt hm (Or.inr rfl)
      exact (ih _ hlt next _ rfl).trans ((hmore _).trans hvisit)
    | _ => exact (hmore _).trans hvisit
  · rw [hv] at hvisit
    exact hvisit

theorem statements_drainResultSets (stmt : StmtHandle κ) (wire : Wire A V) :
    Wire.statements (drainResultSets stmt wire).wire.trace = Wire.statements wire.trace := by
  induction hn : stmt.unread.length using Nat.strongRecOn generalizing stmt wire with
  | ind n ih =>
  rw [drainResultSets_eq]
  have hmore (status : SqlResult Unit) := Wire.statements_moreResults status wire
  rcases hm : stmt.moreResults with ⟨status, next⟩
  cases status with
  | success =>
    have hlt : next.unread.length < n := hn ▸ moreResults_unread_lt hm (Or.inl rfl)
    exact (ih _ hlt next _ rfl).trans (hmore _)
  | successWithInfo =>
    have hlt : next.unread.length < n := hn ▸ moreResults_unread_lt hm (Or.inr rfl)
    exact (ih _ hlt next _ rfl).trans (hmore _)
  | _ => exact hmore _

end Walk

/-! ## Handlers -/

section Handlers

open Proc

variable {s : Session E}

theorem Session.statements_log (event : Event A V) :
    (s.log event).statements = s.statements ++ Wire.statements [event] :=
  Wire.statements_concat _ _

theorem lock_logs (message : String) : Logs Session.statements [] (lock E f message) s := by
  rw [lock]
  split
  · exact .fail _ _
  · exact .pure ()

theorem connectionCall_logs (fault : Option OdbcError) (effect : Connection C → Connection C) :
    Logs Session.statements [] (connectionCall E fault effect) s := by
  cases fault with
  | some e => exact .fail e _
  | none => exact .modify rfl

theorem call_logs (fault : Option OdbcError) (effect : Connection C → Connection C)
    (context : String) : Logs Session.statements []
      ((connectionCall E fault effect).mapError (databaseError context)) s :=
  .mapError (connectionCall_logs fault effect)

theorem preallocate_logs : Logs Session.statements [] (preallocate E f) s := by
  rw [preallocate]
  cases f.preallocate with
  | some e => exact .fail e _
  | none => exact .pure ()

/-- A statement on the connection is asked for, whatever comes of it. -/
theorem statements_executeOnConnection (sql : Sql) :
    (executeOnConnection E f sql s).2.statements = s.statements ++ [(sql, [])] := by
  have hsavepoint (effect : Connection C → Option (Connection C)) :
      (savepointStatement E f sql effect s).2.statements = s.statements ++ [(sql, [])] := by
    rw [savepointStatement, Proc.modify_bind_apply]
    cases f.transactionSql with
    | some e => exact Session.statements_log _
    | none =>
      simp only [Proc.get_bind_apply]
      cases effect (s.log (.executedOnConnection sql)).actor.conn with
      | some conn => exact Session.statements_log _
      | none => exact Session.statements_log _
  cases sql with
  | saveTransaction savepoint => exact hsavepoint _
  | rollbackTransaction savepoint => exact hsavepoint _
  | text sql =>
    rw [executeOnConnection_text]
    exact Session.statements_log _

theorem executeOnConnection_logs (sql : Sql) (context : String) :
    Logs Session.statements [(sql, [])]
      ((executeOnConnection E f sql).mapError (databaseError context)) s :=
  .mapError (.of_append (statements_executeOnConnection sql))

theorem executeStatement_logs (sql : String) (parameters : List A) :
    Logs Session.statements [(.text sql, parameters)]
      (executeStatement E (.executed sql parameters) sql parameters) s := by
  refine .of_append ?_
  rw [executeStatement_apply]
  exact Session.statements_log _

/-- Preparing a statement does not execute it. -/
theorem handlePrepare_logs {sql : String} :
    Logs Session.statements [] (handlePrepare E sql) s := by
  obtain ⟨cache, hrun, -⟩ := handlePrepare_snd sql s
  exact .of_eq (by rw [hrun]; rfl)

theorem handleBegin_logs :
    Logs Session.statements (Command.script s.actor.transactionDepth (.begin : Command A))
      (handleBegin E f) s := by
  refine .get_bind ?_
  rw [Command.script]
  dsimp only
  split
  · refine .bind (lock_logs _) fun _ _ _ ↦ ?_
    exact .bind (call_logs _ _ _) fun _ _ _ ↦ .modify rfl
  · refine .bind (lock_logs _) fun _ _ _ ↦ ?_
    exact .bind (executeOnConnection_logs _ _) fun _ _ _ ↦ .modify rfl

theorem handleCommit_logs :
    Logs Session.statements (Command.script s.actor.transactionDepth (.commit : Command A))
      (handleCommit E f) s := by
  refine .get_bind ?_
  rw [Command.script]
  dsimp only
  split
  · exact .pure ()
  split
  · refine .bind (lock_logs _) fun _ _ _ ↦ .bind (call_logs _ _ _) fun _ _ _ ↦ ?_
    exact .bind (call_logs _ _ _) fun _ _ _ ↦ .modify rfl
  · exact .modify rfl

theorem handleRollback_logs :
    Logs Session.statements (Command.script s.actor.transactionDepth (.rollback : Command A))
      (handleRollback E f) s := by
  refine .get_bind ?_
  rw [Command.script]
  dsimp only
  split
  · split
    · exact .pure ()
    · rw [if_pos (by omega)]
      refine .bind (lock_logs _) fun _ _ _ ↦ .bind (call_logs _ _ _) fun _ _ _ ↦ ?_
      exact .bind (call_logs _ _ _) fun _ _ _ ↦ .modify rfl
  · rw [if_neg (by omega), if_neg (by omega)]
    refine .bind (lock_logs _) fun _ _ _ ↦ ?_
    exact .bind (executeOnConnection_logs _ _) fun _ _ _ ↦ .modify rfl

/-- The rollback of a dropped transaction asks for nothing if the connection cannot be locked, and
then it does not fail. -/
theorem statements_handleStartRollback :
    (handleStartRollback E f s).2.statements = s.statements ++
      if f.lock then [] else
        Command.script s.actor.transactionDepth (.startRollback : Command A) := by
  rw [handleStartRollback, Proc.get_bind_apply, Command.script]
  dsimp only
  cases hlock : f.lock with
  | true =>
    split
    · exact (List.append_nil _).symm
    split
    · exact (List.append_nil _).symm
    · exact (List.append_nil _).symm
  | false =>
    simp only [Bool.false_eq_true, if_false]
    split
    · rw [if_pos (by omega)]
      exact (List.append_nil _).symm
    split
    · rw [if_pos (by omega)]
      refine Eq.trans (Logs.eq_of_nil ?_) (List.append_nil _).symm
      refine .bind (.ignore (connectionCall_logs _ _)) fun _ _ _ ↦ ?_
      exact .bind (.ignore (connectionCall_logs _ _)) fun _ _ _ ↦ .modify rfl
    · rw [if_neg (by omega)]
      exact statements_executeOnConnection _

/-- A handler that locks the connection, runs one statement and looks at the answer. -/
theorem singleStatement_logs {α : Type} {message sql context : String}
    {k : Option (CursorImpl κ) → Handler E α}
    (hk : ∀ c s', Logs Session.statements [] (k c) s') :
    Logs Session.statements [(.text sql, [])] (do
      lock E f message
      let c ← (executeOnConnection E f (.text sql)).mapError (databaseError context)
      k c : Handler E α) s :=
  .bind (lock_logs _) fun _ _ _ ↦ .bind (executeOnConnection_logs _ _) fun c s' _ ↦ hk c s'

theorem migrationBatch_logs {texts : MigrationTexts} {sql : String} :
    Logs Session.statements [(.text sql, [])] (migrationBatch E f texts sql) s := by
  refine .bind (.mapError preallocate_logs) fun _ _ _ ↦ .bind (executeStatement_logs sql []) ?_
  rintro ⟨executed, stmt⟩ s' -
  cases executed with
  | error e => exact .fail _ _
  | ok cursor => exact .of_eq (statements_drainResultSets _ _)

/-- The tracking statement is asked for if the batch succeeds. -/
theorem runMigration_logs {texts : MigrationTexts} {sql trackingSql : String} {noTx : Bool} :
    Logs Session.statements [(.text sql, []), (.text trackingSql, [])]
      (runMigration E f texts sql trackingSql noTx) s := by
  refine .bind (lock_logs _) fun _ _ _ ↦ ?_
  refine .bind (.skipIf noTx (call_logs _ _ _)) fun _ _ _ ↦ ?_
  refine .attempt_bind migrationBatch_logs (fun e s' ↦ ?_) fun _ _ _ ↦ ?_
  · refine ⟨?_, ?_⟩
    · cases noTx with
      | true => rintro b ⟨⟩
      | false => rintro b ⟨⟩
    · refine .bind (.skipIf noTx ?_) fun _ _ _ ↦ .fail e _
      exact .bind (.ignore (connectionCall_logs _ _)) fun _ _ _ ↦ .ignore (connectionCall_logs _ _)
  · refine .bind (executeOnConnection_logs _ _) fun _ _ _ ↦ .skipIf noTx ?_
    exact .bind (call_logs _ _ _) fun _ _ _ ↦ call_logs _ _ _

/-! ### Execute -/

theorem Session.statements_walk (context sql : String) (parameters : List A) :
    Wire.statements (s.walk context sql parameters).wire.trace =
      s.statements ++ [(.text sql, parameters)] := by
  have hexecute : (s.execute sql parameters).statements =
    s.statements ++ [(.text sql, parameters)] := Session.statements_log _
  rw [walk, walkBatch]
  split
  · exact hexecute
  · exact (statements_driveResultSets _ _).trans hexecute

/-- A statement is asked for exactly if it gets as far as being executed. -/
theorem statements_handleExecute (f : Faults) (sql : String) (arguments : Option (List A))
    (persistent : Bool) (hkeyed : CacheKeyed s.actor.stmtCache) :
    ¬ s.Executes f sql arguments persistent ∧
        (handleExecute E f sql arguments persistent s).2.statements = s.statements ∨
      s.Executes f sql arguments persistent ∧
        (handleExecute E f sql arguments persistent s).2.statements =
          s.statements ++ [(.text sql, arguments.getD [])] := by
  obtain ⟨hnot, e, cache, -, hrun⟩ | ⟨hexecutes, context, cache, -, hrun⟩ :=
    handleExecute_cases f sql arguments persistent s hkeyed
  · exact Or.inl ⟨hnot, by rw [hrun]; rfl⟩
  · refine Or.inr ⟨hexecutes, ?_⟩
    rw [hrun]
    exact Session.statements_walk context sql _

end Handlers

/-! ## Commands -/

/-- Whether a failure is heard of: that of an `Execute` by a consumer that stays.  Nobody is told
that a dropped transaction could not be rolled back because the connection cannot be locked. -/
def Job.Heard (job : Job A) : Prop :=
  match job.command with
  | .execute _ _ _ => job.room = none
  | .startRollback => job.faults.lock = false
  | _ => True

/-- The server was asked for a beginning of the script, the whole of it if the command succeeded. -/
structure Processed.Follows (processed : Processed E) (job : Job A)
    (script : List (Sql × List A)) : Prop where
  beginning : Wire.statements processed.trace <+: script
  whole : job.Heard → (∀ e, ¬ processed.Fails job.command e) →
    Wire.statements processed.trace = script

namespace ConnectionActor

open Proc

variable {actor : ConnectionActor E}

/-- A handler that answers with what it fails with. -/
theorem runHandler_follows {α : Type} {handler : Handler E α} {respond : Except Error α → Response}
    {job : Job A} {script : List (Sql × List A)}
    (hrespond : ∀ e, (respond (.error e)).error = some e)
    (hlogs : Logs Session.statements script handler ⟨actor, ⟨.none, []⟩⟩) :
    (actor.runHandler handler respond).Follows job script := by
  obtain ⟨written, hlog, hwritten, hwhole⟩ := hlogs
  have hstatements : Wire.statements (actor.runHandler handler respond).trace = written := hlog
  refine ⟨hstatements ▸ hwritten, fun _ hok ↦ ?_⟩
  rw [hstatements]
  cases hresult : (handler ⟨actor, ⟨.none, []⟩⟩).1 with
  | error e =>
    have herror : (actor.runHandler handler respond).response.error = some e :=
      (congrArg (fun result ↦ (respond result).error) hresult).trans (hrespond e)
    exact absurd (Or.inl herror) (hok e)
  | ok a => exact hwhole a hresult

theorem processExecute_follows (hkeyed : CacheKeyed actor.stmtCache) (f : Faults)
    (room : Option ℕ) (sql : String) (args : Option (List A)) (persistent : Bool) :
    (actor.processExecute f room sql args persistent).Follows
      ⟨.execute sql args persistent, f, room⟩ [(.text sql, args.getD [])] := by
  have htrace : Wire.statements (actor.processExecute f room sql args persistent).trace =
      (handleExecute E f sql args persistent ⟨actor, ⟨room, []⟩⟩).2.statements := by
    rw [processExecute]
    rcases handleExecute E f sql args persistent ⟨actor, ⟨room, []⟩⟩ with ⟨e | _, s⟩
    · exact Wire.statements_send _ _
    · rfl
  obtain ⟨hnot, hstatements⟩ | ⟨-, hstatements⟩ :=
    statements_handleExecute (s := ⟨actor, ⟨room, []⟩⟩) f sql args persistent hkeyed
  · refine ⟨?_, fun hheard hok ↦ ?_⟩
    · rw [htrace, hstatements]
      exact List.nil_prefix
    · obtain rfl : room = none := hheard
      obtain ⟨-, e, hsent⟩ | ⟨hexecutes, -⟩ :=
        actor.processExecute_open (f := f) hkeyed sql args persistent
      · refine absurd (Or.inr ?_) (hok e)
        rw [Command.streamed, hsent]
        exact List.mem_singleton_self _
      · exact absurd hexecutes hnot
  · have hwhole := htrace.trans hstatements
    exact ⟨hwhole ▸ List.prefix_rfl, fun _ _ ↦ hwhole⟩

/-- **A command follows its script.** -/
theorem process_follows (hkeyed : CacheKeyed actor.stmtCache) (job : Job A) :
    (actor.process job).Follows job (job.command.script actor.transactionDepth) := by
  obtain ⟨command, f, room⟩ := job
  have hsilent {processed : Processed E} (h : processed.trace = []) :
      processed.Follows ⟨command, f, room⟩ [] :=
    ⟨by rw [h]; exact List.nil_prefix, fun _ _ ↦ by rw [h]; rfl⟩
  cases command with
  | execute sql args persistent => exact processExecute_follows hkeyed f room sql args persistent
  | prepare sql => exact runHandler_follows (fun _ ↦ rfl) handlePrepare_logs
  | ping => exact runHandler_follows (fun _ ↦ rfl) (singleStatement_logs fun _ _ ↦ .pure _)
  | begin => exact runHandler_follows (fun _ ↦ rfl) handleBegin_logs
  | commit => exact runHandler_follows (fun _ ↦ rfl) handleCommit_logs
  | rollback => exact runHandler_follows (fun _ ↦ rfl) handleRollback_logs
  | startRollback =>
    have hstatements : Wire.statements (actor.process ⟨.startRollback, f, room⟩).trace =
        if f.lock then [] else Command.script actor.transactionDepth .startRollback :=
      statements_handleStartRollback (s := ⟨actor, ⟨.none, []⟩⟩)
    refine ⟨?_, fun hheard _ ↦ ?_⟩
    · rw [hstatements]
      split
      · exact List.nil_prefix
      · exact List.prefix_rfl
    · have hlock : f.lock = false := hheard
      rw [hstatements, hlock, if_neg Bool.false_ne_true]
  | execSql sql => exact runHandler_follows (fun _ ↦ rfl) (singleStatement_logs fun _ _ ↦ .pure _)
  | scalarI64 sql =>
    refine runHandler_follows (fun _ ↦ rfl) (singleStatement_logs fun c _ ↦ ?_)
    cases c with
    | none => exact .fail _ _
    | some cursor => exact .ofExcept _
  | shutdown => exact hsilent rfl
  | listMigrations sql =>
    refine runHandler_follows (fun _ ↦ rfl) (singleStatement_logs fun c _ ↦ ?_)
    cases c with
    | none => exact .fail _ _
    | some cursor => exact .ofExcept _
  | applyMigration sql insertSql version noTx =>
    exact runHandler_follows (fun _ ↦ rfl) runMigration_logs
  | revertMigration sql deleteSql version noTx =>
    exact runHandler_follows (fun _ ↦ rfl) runMigration_logs
  | statementCacheSize => exact hsilent rfl
  | clearStatementCache => exact hsilent rfl

/-- The commands, each with its script. -/
def scripts (actor : ConnectionActor E) : List (Job A) → List (Job A × List (Sql × List A))
  | [] => []
  | job :: jobs =>
    (job, job.command.script actor.transactionDepth) :: (actor.step job).scripts jobs

/-- What the command loop leaves of each command follows the command's script. -/
theorem processes_follow (hkeyed : CacheKeyed actor.stmtCache) (jobs : List (Job A)) :
    List.Forall₂ (fun processed p ↦ processed.Follows p.1 p.2) (actor.processes jobs)
      (actor.scripts jobs) := by
  induction jobs generalizing actor with
  | nil => exact .nil
  | cons job jobs ih => exact .cons (process_follows hkeyed job) (ih (step_cacheKeyed hkeyed job))

end ConnectionActor

/-! ## Interleavings -/

/-- What the server was asked for the commands that are finished, in the order it was asked in. -/
def ActorSystem.statements (c : ActorSystem E) : List (Sql × List A) :=
  c.finished.flatMap fun processed ↦ Wire.statements processed.trace

/-- What is left out of the scripts are their ends. -/
theorem sublist_of_follows {finished : List (Processed E)}
    {scripts : List (Job A × List (Sql × List A))}
    (h : List.Forall₂ (fun processed p ↦ processed.Follows p.1 p.2) finished scripts) :
    (finished.flatMap fun processed ↦ Wire.statements processed.trace).Sublist
      (scripts.flatMap Prod.snd) := by
  induction h with
  | nil => exact .refl _
  | cons hfollows _ ih =>
    rw [List.flatMap_cons, List.flatMap_cons]
    exact hfollows.beginning.sublist.append ih

open ActorSystem

/-- **The server is asked what the commands say, in their order.**  However the actor, its consumers
and the commands that come in take turns: for every finished command the server was asked for a
beginning of the command's script, the whole of it if the command succeeded, and so for nothing
else, for nothing twice and for nothing out of turn.  No consumer that stays cuts its command
short. -/
theorem statements_scripted {contents : C} {capacity : ℕ} {settings : MssqlBufferSettings}
    {c : ActorSystem E} (h : Reachable (.connect E contents capacity settings) c) :
    ∃ past : List (Request A × Option ℕ), past.map Prod.fst <+: c.jobs ∧
      (∀ i request room, past[i]? = some (request, room) → (c.chan i).connected = true →
        room = none) ∧
      let scripts := (ConnectionActor.connect E contents capacity settings).scripts (jobsOf past)
      List.Forall₂ (fun processed p ↦ processed.Follows p.1 p.2) c.finished scripts ∧
        c.statements.Sublist (scripts.flatMap Prod.snd) := by
  obtain ⟨past, hpast⟩ := linearized_of_reaches h
  have hkeyed : CacheKeyed (ConnectionActor.connect E contents capacity settings).stmtCache :=
    CacheImpl.all_new capacity
  have hfinished : c.finished =
      (ConnectionActor.connect E contents capacity settings).processes (jobsOf past) := by
    rw [← hpast.finished, sequential_eq]
  have hfollow := ConnectionActor.processes_follow hkeyed (jobsOf past)
  rw [← hfinished] at hfollow
  exact ⟨past, hpast.jobs, fun i request room hi ↦ hpast.stayed i _ hi, hfollow,
    sublist_of_follows hfollow⟩

theorem statements_scripted_twoRows : ∃ c : ActorSystem twoRows, c.turn = 3 ∧
    ((c.chan 0).received.length = 1 ∧ (c.chan 0).connected = false) ∧
    ((c.chan 1).received = [] ∧ (c.chan 1).connected = false) ∧
    ∃ past : List (Request ℤ × Option ℕ), past.map Prod.fst <+: c.jobs ∧
      (∀ i request room, past[i]? = some (request, room) → (c.chan i).connected = true →
        room = none) ∧
      let scripts := (ConnectionActor.connect twoRows [] 16 default).scripts (jobsOf past)
      List.Forall₂ (fun processed p ↦ processed.Follows p.1 p.2) c.finished scripts ∧
        c.statements.Sublist (scripts.flatMap Prod.snd) := by
  obtain ⟨c, h, -, hturn, hfirst, hsecond, -⟩ := exists_selected
  exact ⟨c, hturn, hfirst, hsecond, statements_scripted h⟩

end MssqlOdbc
