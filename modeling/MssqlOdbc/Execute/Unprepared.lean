import MssqlOdbc.Lib.Run
import MssqlOdbc.Execute.Delivery

/-!
# The statement cache is transparent

Preparing a statement and keeping it changes what happens on the server, and must not change what
the caller gets.  Two actors run the same commands side by side, one with the statement cache and
one on which every execution takes the unprepared path.  They stay on the same contents, whatever
the cache keeps or forgets, and answer alike (`cached_as_unprepared`).

The two differ in one thing: a statement that the server refuses to prepare is not executed at all,
where the unprepared path executes it and fails.
-/

set_option autoImplicit false

namespace MssqlOdbc

open TxStore

variable {C κ A V : Type} {E : Env C κ A V}

/-- What cannot be prepared cannot be executed: its execution fails and has no effect. -/
structure Env.PreparesSoundly (E : Env C κ A V) : Prop where
  refused : ∀ sql parameters contents e, E.prepare sql contents = .error e →
    (∃ e', (E.exec sql parameters contents).1.head = .error e') ∧
      (E.exec sql parameters contents).2 = contents

/-! ## Commands -/

/-- The same command, with every execution on the unprepared path. -/
def Command.unprepared : Command A → Command A
  | .execute sql args _ => .execute sql args false
  | command => command

def Job.unprepared (job : Job A) : Job A := { job with command := job.command.unprepared }

/-- An `Execute`, `Prepare` or `ClearStatementCache` command whose consumer drains its stream, on a
connection that can be locked and on which a handle can be allocated. -/
structure Job.Undisturbed (job : Job A) : Prop where
  command : job.command.usesStmtCache = true
  room : job.room = none
  lock : job.faults.lock = false
  preallocate : job.faults.preallocate = none

/-- The answers of a command: the rows and counts, and `none` for an error. -/
def answers (trace : List (Event A V)) : List (Option (MssqlQueryResult ⊕ MssqlRow V)) :=
  (Wire.items trace).map Except.toOption

namespace ConnectionActor

/-- The statement has to be prepared, and the server refuses. -/
def Refuses (actor : ConnectionActor E) (sql : String) (args : Option (List A))
    (persistent : Bool) : Prop :=
  usesCache args persistent = true ∧ E.cache.get actor.stmtCache sql = none ∧
    ∃ e, E.prepare sql actor.conn.working = .error e

variable {actor : ConnectionActor E} {f : Faults} {sql : String} {args : Option (List A)}
  {persistent : Bool}

/-- Undisturbed, only a refusal keeps a statement from being executed. -/
theorem executes_iff (hlock : f.lock = false) (hpreallocate : f.preallocate = none)
    (wire : Wire A V) : (⟨actor, wire⟩ : Session E).Executes f sql args persistent ↔
      ¬ actor.Refuses sql args persistent := by
  constructor
  · rintro hexecutes ⟨hcache, hget, e, hprepare⟩
    rw [Session.Executes, if_pos hcache] at hexecutes
    obtain ⟨info, hinfo⟩ := hexecutes.2 hget
    rw [hprepare] at hinfo
    cases hinfo
  · intro haccepted
    by_contra hnot
    obtain hl | hp | hrefuses := Session.not_executes hnot
    · rw [hlock] at hl
      cases hl
    · exact hp hpreallocate
    · exact haccepted hrefuses

theorem not_refuses_unprepared : ¬ actor.Refuses sql args false := fun h ↦ Bool.noConfusion h.1

/-- A refused statement is not executed and leaves the contents alone. -/
theorem processExecute_refused (hkeyed : CacheKeyed actor.stmtCache)
    (hlock : f.lock = false) (hpreallocate : f.preallocate = none)
    (hrefuses : actor.Refuses sql args persistent) :
    ∃ e, (actor.processExecute f none sql args persistent).trace = [.sent (.error e)] ∧
      (actor.processExecute f none sql args persistent).actor.conn = actor.conn := by
  have hnot : ¬ (⟨actor, ⟨none, []⟩⟩ : Session E).Executes f sql args persistent := by
    rw [executes_iff hlock hpreallocate]
    exact not_not_intro hrefuses
  obtain ⟨-, e, cache, -, hrun⟩ | ⟨hexecutes, -⟩ :=
    handleExecute_cases f sql args persistent ⟨actor, ⟨none, []⟩⟩ hkeyed
  · exact ⟨e, by rw [processExecute, hrun]; rfl, by rw [processExecute, hrun]; rfl⟩
  · exact absurd hexecutes hnot

/-- Every other statement is executed once, and answered with the stream of its batch. -/
theorem processExecute_accepted (hkeyed : CacheKeyed actor.stmtCache)
    (hlock : f.lock = false) (hpreallocate : f.preallocate = none) (sql : String)
    (args : Option (List A)) (persistent : Bool)
    (haccepts : ¬ actor.Refuses sql args persistent) :
    let processed := actor.processExecute f none sql args persistent
    Wire.executions processed.trace = [(sql, args.getD [])] ∧
      (∃ context, Wire.items processed.trace =
        ((E.exec sql (args.getD []) actor.conn.working).1.stream E actor.bufferSettings
          context).toList) ∧
      processed.actor.conn =
        actor.conn.write fun contents ↦ (E.exec sql (args.getD []) contents).2 := by
  intro processed
  have hexecutes := (executes_iff hlock hpreallocate ⟨none, []⟩).2 haccepts
  have hconn : processed.actor.conn =
      actor.conn.write fun contents ↦ (E.exec sql (args.getD []) contents).2 := by
    obtain ⟨hnot, -⟩ | ⟨-, context, cache, -, hstep⟩ :=
      step_execute_cases hkeyed f sql args persistent none
    · exact absurd hexecutes hnot
    · exact congrArg ConnectionActor.conn hstep
  obtain ⟨hnot, -⟩ | ⟨-, context, events, hcarries, htrace⟩ :=
    actor.processExecute_open (f := f) hkeyed sql args persistent
  · exact absurd hexecutes hnot
  · have htrace' : processed.trace = _ := htrace
    rw [htrace', hcarries.executions_trace, hcarries.items_trace]
    exact ⟨rfl, ⟨context, rfl⟩, hconn⟩

end ConnectionActor

/-! ## Answers -/

theorem answers_of_items {trace : List (Event A V)}
    {stream : ErrStream Error (MssqlQueryResult ⊕ MssqlRow V)}
    (h : Wire.items trace = stream.toList) :
    answers trace = stream.items.map some ++ stream.error.toList.map fun _ ↦ none := by
  rw [answers, h, ErrStream.toList, List.map_append, List.map_map, List.map_map]
  rfl

/-- The path of an execution shows only in the text of its error. -/
theorem Batch.stream_context (settings : MssqlBufferSettings) (batch : Batch κ)
    (context context' : String) :
    (batch.stream E settings context).items = (batch.stream E settings context').items ∧
      ((batch.stream E settings context).error.toList.map fun _ ↦
        (none : Option (MssqlQueryResult ⊕ MssqlRow V))) =
      (batch.stream E settings context').error.toList.map fun _ ↦ none := by
  refine ⟨(batch.items_eq context).symm.trans (batch.items_eq context'), ?_⟩
  rw [Batch.stream, Batch.stream]
  cases batch.first <;> rfl

theorem Batch.stream_of_head {batch : Batch κ} {e : OdbcError} (h : batch.head = .error e)
    (settings : MssqlBufferSettings) (context : String) :
    batch.stream E settings context = .check (databaseError context e) := by
  have hfirst : batch.first = .error e := by rw [Batch.first, h]; rfl
  rw [Batch.stream, hfirst]

/-! ## Two actors side by side -/

/-- The actors work on the same contents in the same mode, with the same settings. -/
structure Alike (p : ConnectionActor E × ConnectionActor E) : Prop where
  conn : p.1.conn = p.2.conn
  bufferSettings : p.1.bufferSettings = p.2.bufferSettings
  keyed : CacheKeyed p.1.stmtCache
  unpreparedKeyed : CacheKeyed p.2.stmtCache

/-- Both actors process a command, the second on the unprepared path. -/
def stepBoth (p : ConnectionActor E × ConnectionActor E) (job : Job A) :
    ConnectionActor E × ConnectionActor E :=
  (p.1.step job, p.2.step job.unprepared)

/-- An execution is answered as on the unprepared path, and its statement is executed exactly once,
unless the server refuses to prepare it: then it is not executed, and the answer is one error. -/
def AnsweredAlike (p : ConnectionActor E × ConnectionActor E) (job : Job A) : Prop :=
  ∀ sql args persistent, job.command = .execute sql args persistent →
    answers (p.1.process job).trace = answers (p.2.process job.unprepared).trace ∧
    (¬ p.1.Refuses sql args persistent →
      Wire.executions (p.1.process job).trace = [(sql, args.getD [])]) ∧
    (p.1.Refuses sql args persistent →
      ∃ e, (p.1.process job).trace = [.sent (.error e)])

theorem Alike.execute (hE : E.PreparesSoundly) {p : ConnectionActor E × ConnectionActor E}
    (h : Alike p) {f : Faults} (hlock : f.lock = false) (hpreallocate : f.preallocate = none)
    (sql : String) (args : Option (List A)) (persistent : Bool) :
    let processed := p.1.processExecute f none sql args persistent
    let unprepared := p.2.processExecute f none sql args false
    processed.actor.conn = unprepared.actor.conn ∧
      answers processed.trace = answers unprepared.trace ∧
      (¬ p.1.Refuses sql args persistent →
        Wire.executions processed.trace = [(sql, args.getD [])]) ∧
      (p.1.Refuses sql args persistent → ∃ e, processed.trace = [.sent (.error e)]) := by
  intro processed unprepared
  obtain ⟨-, ⟨context', hitems'⟩, hconn'⟩ := ConnectionActor.processExecute_accepted
    h.unpreparedKeyed hlock hpreallocate sql args false ConnectionActor.not_refuses_unprepared
  rw [← h.conn, ← h.bufferSettings] at hitems'
  rw [← h.conn] at hconn'
  by_cases hrefuses : p.1.Refuses sql args persistent
  · obtain ⟨e, htrace, hconn⟩ :=
      ConnectionActor.processExecute_refused h.keyed hlock hpreallocate hrefuses
    have ⟨_, _, e', hprepare⟩ := hrefuses
    -- the unprepared path executes the statement, which fails without effect
    obtain ⟨⟨e'', hhead⟩, hcontents⟩ := hE.refused sql (args.getD []) _ e' hprepare
    rw [Batch.stream_of_head hhead] at hitems'
    refine ⟨hconn.trans ?_, ?_, fun ha ↦ absurd hrefuses ha, fun _ ↦ ⟨e, htrace⟩⟩
    · exact (hconn'.trans (Store.write_of_working hcontents)).symm
    · rw [answers_of_items hitems']
      have htrace' : processed.trace = [.sent (.error e)] := htrace
      rw [htrace']
      rfl
  · obtain ⟨hexecutions, ⟨context, hitems⟩, hconn⟩ :=
      ConnectionActor.processExecute_accepted h.keyed hlock hpreallocate sql args persistent
        hrefuses
    obtain ⟨hsame, herror⟩ := (E.exec sql (args.getD []) p.1.conn.working).1.stream_context (E := E)
      p.1.bufferSettings context context'
    refine ⟨hconn.trans hconn'.symm, ?_, fun _ ↦ hexecutions, fun hr ↦ absurd hr hrefuses⟩
    rw [answers_of_items hitems, answers_of_items hitems', hsame, herror]

theorem Alike.step (hE : E.PreparesSoundly) {p : ConnectionActor E × ConnectionActor E}
    (h : Alike p) {job : Job A} (hjob : job.Undisturbed) :
    Alike (stepBoth p job) ∧ AnsweredAlike p job := by
  have hkeyed : CacheKeyed (stepBoth p job).1.stmtCache ∧ CacheKeyed (stepBoth p job).2.stmtCache :=
    ⟨ConnectionActor.step_cacheKeyed h.keyed job,
      ConnectionActor.step_cacheKeyed h.unpreparedKeyed job.unprepared⟩
  have hsettings : (stepBoth p job).1.bufferSettings = (stepBoth p job).2.bufferSettings := by
    show (p.1.step job).bufferSettings = (p.2.step job.unprepared).bufferSettings
    rw [ConnectionActor.step_bufferSettings h.keyed,
      ConnectionActor.step_bufferSettings h.unpreparedKeyed, h.bufferSettings]
  obtain ⟨command, f, room⟩ := job
  obtain ⟨hcommand, rfl, hlock, hpreallocate⟩ := hjob
  cases command with
  | execute sql args persistent =>
    obtain ⟨hconn, hanswers, hexecutions, hrefused⟩ :=
      h.execute hE hlock hpreallocate sql args persistent
    refine ⟨⟨hconn, hsettings, hkeyed.1, hkeyed.2⟩, ?_⟩
    rintro _ _ _ ⟨⟩
    exact ⟨hanswers, hexecutions, hrefused⟩
  | prepare sql =>
    have hconn (actor : ConnectionActor E) :
        (actor.step ⟨.prepare sql, f, none⟩).conn = actor.conn := by
      obtain ⟨cache, hstep, -⟩ := actor.step_prepare sql f none
      rw [hstep]
    refine ⟨⟨?_, hsettings, hkeyed.1, hkeyed.2⟩, ?_⟩
    · exact (hconn p.1).trans (h.conn.trans (hconn p.2).symm)
    · rintro _ _ _ ⟨⟩
  | clearStatementCache =>
    refine ⟨⟨h.conn, hsettings, hkeyed.1, hkeyed.2⟩, ?_⟩
    rintro _ _ _ ⟨⟩
  | _ => cases hcommand

/-- **The statement cache is transparent.**  For every capacity, whatever the cache forgets, and
every sequence of executions, preparations and clearings: each execution is answered as on the
unprepared path, and executes its statement exactly once, or not at all if the server refuses to
prepare it. -/
theorem cached_as_unprepared (hE : E.PreparesSoundly) (contents : C) (capacity : ℕ)
    (settings : MssqlBufferSettings) (jobs : List (Job A)) (hjobs : ∀ job ∈ jobs, job.Undisturbed) :
    Run.AllSteps stepBoth AnsweredAlike
      (.connect E contents capacity settings, .connect E contents capacity settings) jobs := by
  have hconnect : Alike (ConnectionActor.connect E contents capacity settings,
      ConnectionActor.connect E contents capacity settings) :=
    ⟨rfl, rfl, CacheImpl.all_new capacity, CacheImpl.all_new capacity⟩
  exact Run.allSteps_of_inv (fun p job hjob h ↦ h.step hE (hjobs job hjob)) hconnect

/-- The server that neither prepares nor executes `SELEC 1`. -/
def refusesTypo : Env (List String) ℤ ℤ ℤ :=
  { Env.recorder fun sql ↦
      if sql = "SELEC 1" then ⟨.error ⟨some ⟨"42000", "syntax error"⟩, ""⟩, []⟩
      else ⟨.ok (.ofCount 1), []⟩ with
    prepare := fun sql _ ↦
      if sql = "SELEC 1" then .error ⟨some ⟨"42000", "syntax error"⟩, ""⟩
      else .ok ⟨⟨none, []⟩, .ok 1, fun _ ↦ .ok .integer⟩ }

theorem preparesSoundly_refusesTypo : refusesTypo.PreparesSoundly where
  refused sql parameters contents e h := by
    by_cases hsql : sql = "SELEC 1"
    · subst hsql
      exact ⟨⟨_, rfl⟩, rfl⟩
    · have hprepared : refusesTypo.prepare sql contents =
          .ok ⟨⟨none, []⟩, .ok 1, fun _ ↦ .ok .integer⟩ := if_neg hsql
      rw [hprepared] at h
      cases h

/-- A miss, a hit, a refusal, a preparation, and a miss after the cache was cleared. -/
theorem cached_as_unprepared_refusesTypo :
    Run.AllSteps stepBoth AnsweredAlike
      (.connect refusesTypo [] 1 default, .connect refusesTypo [] 1 default)
      [⟨.execute "UPDATE t" (some [1]) true, .none, none⟩,
        ⟨.execute "UPDATE t" (some [2]) true, .none, none⟩,
        ⟨.execute "SELEC 1" (some [3]) true, .none, none⟩, ⟨.prepare "UPDATE u", .none, none⟩,
        ⟨.clearStatementCache, .none, none⟩,
        ⟨.execute "UPDATE u" (some [4]) true, .none, none⟩] := by
  refine cached_as_unprepared preparesSoundly_refusesTypo [] 1 default _ ?_
  simp only [List.forall_mem_cons]
  exact ⟨⟨rfl, rfl, rfl, rfl⟩, ⟨rfl, rfl, rfl, rfl⟩, ⟨rfl, rfl, rfl, rfl⟩, ⟨rfl, rfl, rfl, rfl⟩,
    ⟨rfl, rfl, rfl, rfl⟩, ⟨rfl, rfl, rfl, rfl⟩, List.forall_mem_nil _⟩

/-- A server on which `SELEC 1` cannot be prepared, and fails when it is executed, but not without
effect; every other statement is answered with the number of such failures. -/
def failsWithEffect : Env (List String) ℤ ℤ ℤ :=
  { refusesTypo with
    exec := fun sql _ contents ↦
      if sql = "SELEC 1" then
        (⟨.error ⟨some ⟨"42000", "syntax error"⟩, ""⟩, []⟩, contents ++ [sql])
      else (⟨.ok (.ofCount contents.length), []⟩, contents) }

/-- **Not every statement is executed.**  A statement that the server refuses to prepare is not; nor
is one for which the connection cannot be locked or no handle can be allocated.  (On a poisoned
mutex `odbc_api` panics while it prepares the statement; the model prepares it and fails with the
error of the handler.  It is executed in neither case.)  If a statement that cannot be prepared has
an effect when it is executed, this shows in later answers. -/
theorem refused_statement_not_executed :
    let actor : ConnectionActor refusesTypo := .connect refusesTypo [] 16 default
    let unallocated : Faults := { Faults.none with preallocate := some ⟨none, "no memory"⟩ }
    let both : ConnectionActor failsWithEffect × ConnectionActor failsWithEffect :=
      stepBoth (.connect failsWithEffect [] 16 default, .connect failsWithEffect [] 16 default)
        ⟨.execute "SELEC 1" (some [1]) true, .none, none⟩
    let count : Job ℤ := ⟨.execute "UPDATE t" none true, .none, none⟩
    refusesTypo.PreparesSoundly ∧
      Wire.executions (actor.process ⟨.execute "SELEC 1" (some [1]) true, .none, none⟩).trace =
        [] ∧
      Wire.executions (actor.process
        ⟨.execute "UPDATE t" (some [1]) true, { Faults.none with lock := true }, none⟩).trace = [] ∧
      Wire.executions (actor.process ⟨.execute "UPDATE t" none false, unallocated, none⟩).trace =
        [] ∧
      answers (both.1.process count).trace = [some (.inl ⟨0⟩)] ∧
      answers (both.2.process count.unprepared).trace = [some (.inl ⟨1⟩)] :=
  ⟨preparesSoundly_refusesTypo, rfl, rfl, rfl, by decide +kernel, by decide +kernel⟩

end MssqlOdbc
