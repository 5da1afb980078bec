import MssqlOdbc.Connection.Actor

/-!
# The three paths of an execution

A statement is executed on a cached handle, on a handle prepared for it, or on a one-shot handle.
Whatever the path, the server runs the statement once (`Session.execute`) and the batch it answers
with is walked (`walkBatch`); the paths differ in the handle the walk leaves its traces on and in
the context of an execution error.  There is one equation for each path, and `handleExecute_cases`
says which of them a command takes.
-/

set_option autoImplicit false

namespace MssqlOdbc

open TxStore

variable {C κ A V : Type}

/-- Every cached statement is the one of its key. -/
def CacheKeyed {E : Env C κ A V} (cache : E.cache.State) : Prop :=
  E.cache.All (fun sql prepared ↦ prepared.sql = sql) cache

section Paths

variable (E : Env C κ A V)

/-- The session once the server has run a statement. -/
def Session.execute {E : Env C κ A V} (sql : String) (parameters : List A) (s : Session E) :
    Session E :=
  (s.setConn (s.actor.conn.write fun contents ↦ (E.exec sql parameters contents).2)).log
    (.executed sql parameters)

/-- Walks the batch an execution has answered with. -/
def walkBatch (settings : MssqlBufferSettings) (context : String) (batch : Batch κ)
    (wire : Wire A V) : Walked κ A V :=
  match batch.executed with
  | (.error e, stmt) => ⟨.error (databaseError context e), stmt, wire⟩
  | (.ok cursor, stmt) => driveResultSets E settings (bareHandle cursor stmt) wire

/-- The walk of the batch a statement answers with in this session. -/
def Session.walk {E : Env C κ A V} (context sql : String) (parameters : List A) (s : Session E) :
    Walked κ A V :=
  walkBatch E s.actor.bufferSettings context (E.exec sql parameters s.actor.conn.working).1
    (s.execute sql parameters).wire

end Paths

/-- An execution that succeeds leaves the bare handle on the first result, with a cursor around it
exactly if that result has columns. -/
theorem Batch.executed_ok {batch : Batch κ} {cursor : Option (CursorImpl κ)} {stmt : StmtHandle κ}
    (h : batch.executed = (.ok cursor, stmt)) :
    ∃ r, batch.head = .ok r ∧ r.numColsError = none ∧
      bareHandle cursor stmt = ⟨some r, batch.rest⟩ := by
  rw [Batch.executed] at h
  cases hhead : batch.head with
  | error e => rw [hhead] at h; cases h
  | ok r =>
    refine ⟨r, rfl, ?_⟩
    rw [hhead] at h
    simp only [Metadata.numResultCols] at h
    cases hcols : r.numColsError with
    | some e => rw [hcols] at h; cases h
    | none =>
      rw [hcols] at h
      cases hlength : r.columns.length with
      | zero => rw [hlength] at h; cases h; exact ⟨rfl, rfl⟩
      | succ n => rw [hlength] at h; cases h; exact ⟨rfl, rfl⟩

variable {E : Env C κ A V} {f : Faults} {s : Session E} {sql : String} {parameters : List A}

@[simp] theorem Session.execute_bufferSettings :
    (s.execute sql parameters).actor.bufferSettings = s.actor.bufferSettings := rfl

theorem executeStatement_apply : executeStatement E (.executed sql parameters) sql parameters s =
    (.ok (E.exec sql parameters s.actor.conn.working).1.executed, s.execute sql parameters) := by
  rw [executeStatement, Session.execute,
    ← Store.write_working fun contents ↦ (E.exec sql parameters contents).2]

/-! ## The paths -/

theorem executeOneShot_apply (hf : f.preallocate = none) :
    executeOneShot E f sql parameters s =
      let walked := s.walk s!"failed to execute ODBC query: `{sqlPreview sql}`" sql parameters
      (walked.outcome, (s.execute sql parameters).setWire walked.wire) := by
  rw [executeOneShot, Proc.bind_of_ok (a := ()) (t := s) (by rw [preallocate, hf]; rfl),
    Proc.bind_of_ok executeStatement_apply, Session.walk, walkBatch]
  rcases (E.exec sql parameters s.actor.conn.working).1.executed with ⟨e | cursor, stmt⟩
  · rfl
  · rfl

theorem executeOneShot_unallocated {e : OdbcError} (hf : f.preallocate = some e) :
    executeOneShot E f sql parameters s = (.error (databaseError
      s!"failed to allocate an ODBC statement for query: `{sqlPreview sql}`" e), s) := by
  rw [executeOneShot, preallocate, hf]
  rfl

/-- On the cached path the walk hands the handle back to the cache. -/
theorem executeCached_apply (hf : f.lock = false) {prepared : Prepared κ}
    (hsql : prepared.sql = sql) :
    executeCached E f sql parameters prepared s =
      let walked := s.walk s!"failed to execute cached ODBC statement: `{sqlPreview sql}`" sql
        parameters
      (walked.outcome, ((s.execute sql parameters).setWire walked.wire).setCache
        (E.cache.put s.actor.stmtCache sql { prepared with stmt := walked.stmt })) := by
  subst hsql
  rw [executeCached, Proc.bind_of_ok (a := ()) (t := s) (by rw [lock, hf]; rfl),
    Proc.bind_of_ok executeStatement_apply, Session.walk, walkBatch]
  rcases (E.exec prepared.sql parameters s.actor.conn.working).1.executed with ⟨e | cursor, stmt⟩
  · rfl
  · rfl

theorem executeCached_locked (hf : f.lock = true) (prepared : Prepared κ) :
    executeCached E f sql parameters prepared s =
      (.error (.protocol "ODBC execute: failed to lock connection"), s) := by
  rw [executeCached, lock, hf]
  rfl

theorem lookup_apply : lookup E sql s =
    (.ok (E.cache.get s.actor.stmtCache sql),
      s.setCache (E.cache.touch s.actor.stmtCache sql)) := rfl

/-- A lookup that finds nothing leaves the session as it is. -/
theorem lookup_of_get_eq_none (hget : E.cache.get s.actor.stmtCache sql = none) :
    lookup E sql s = (.ok none, s) := by
  rw [lookup_apply, hget, CacheImpl.touch_of_get_eq_none hget]
  rfl

/-- Whether the first result of a batch came without a cursor. -/
def Batch.startsBare (batch : Batch κ) : Bool :=
  match batch.executed.1 with
  | .ok none => true
  | .ok (some _) => false
  | .error _ => false

/-- What the cache holds after a walk on a handle that was prepared for it. -/
def cacheWalked (cache : E.cache.State) (sql : String) (info : PreparedInfo) (batch : Batch κ)
    (walked : Walked κ A V) : E.cache.State :=
  match walked.outcome with
  | .ok () => if batch.startsBare then E.cache.insert cache sql ⟨sql, info, walked.stmt⟩ else cache
  | .error _ => cache

theorem intoPrepared_apply : intoPrepared E sql s =
    match E.prepare sql s.actor.conn.working with
    | .error e => (.error e, s)
    | .ok info => (.ok ⟨sql, info, .closed⟩, s) := by
  rw [intoPrepared, Proc.get_bind_apply]
  cases E.prepare sql s.actor.conn.working <;> rfl

theorem executeUncached_refused {e : OdbcError}
    (hprepare : E.prepare sql s.actor.conn.working = .error e) :
    executeUncached E f sql parameters s = (.error (databaseError
      s!"failed to prepare cached ODBC statement: `{sqlPreview sql}`" e), s) := by
  rw [executeUncached, Proc.bind_apply, Proc.mapError_apply, intoPrepared_apply, hprepare]
  rfl

theorem executeUncached_locked (hf : f.lock = true) {info : PreparedInfo}
    (hprepare : E.prepare sql s.actor.conn.working = .ok info) :
    executeUncached E f sql parameters s =
      (.error (.protocol "ODBC execute: failed to lock connection"), s) := by
  rw [executeUncached, Proc.bind_apply, Proc.mapError_apply, intoPrepared_apply, hprepare, lock,
    hf]
  rfl

theorem executeUncached_apply (hf : f.lock = false) {info : PreparedInfo}
    (hprepare : E.prepare sql s.actor.conn.working = .ok info) :
    executeUncached E f sql parameters s =
      let walked := s.walk s!"failed to execute cached ODBC statement: `{sqlPreview sql}`" sql
        parameters
      (walked.outcome, ((s.execute sql parameters).setWire walked.wire).setCache
        (cacheWalked s.actor.stmtCache sql info
          (E.exec sql parameters s.actor.conn.working).1 walked)) := by
  rw [executeUncached, Proc.bind_of_ok (a := ⟨sql, info, .closed⟩) (t := s)
      (by rw [Proc.mapError_apply, intoPrepared_apply, hprepare]; rfl),
    Proc.bind_of_ok (a := ()) (t := s) (by rw [lock, hf]; rfl),
    Proc.bind_of_ok executeStatement_apply]
  simp only [Session.walk]
  generalize (E.exec sql parameters s.actor.conn.working).1 = batch
  obtain ⟨⟨executed, stmt⟩, hexecuted⟩ : ∃ x, batch.executed = x := ⟨_, rfl⟩
  simp only [cacheWalked, walkBatch, Batch.startsBare, hexecuted]
  rcases executed with e | _ | cursor
  · rfl
  · simp only [bareHandle, if_true, drive, Proc.bind_apply, Session.execute_bufferSettings]
    cases (driveResultSets E s.actor.bufferSettings stmt (s.execute sql parameters).wire).outcome
    · rfl
    · rfl
  · simp only [bareHandle, drive, Proc.bind_apply, Session.execute_bufferSettings]
    cases (driveResultSets E s.actor.bufferSettings cursor.intoStmt
      (s.execute sql parameters).wire).outcome
    · rfl
    · rfl

/-! ## The command -/

/-- Whether a command asks for a prepared statement: it is persistent and has arguments. -/
def usesCache (arguments : Option (List A)) (persistent : Bool) : Bool :=
  persistent && arguments.any fun a ↦ !a.isEmpty

/-- The cache after a statement was executed and its batch walked: the handle of a hit is handed
back, a new handle may be inserted, and the one-shot path leaves the cache alone. -/
inductive CacheAfter (cache : E.cache.State) (useCache : Bool) (sql : String) (batch : Batch κ)
    (walked : Walked κ A V) : E.cache.State → Prop
  | oneShot (h : useCache = false) : CacheAfter cache useCache sql batch walked cache
  | hit (h : useCache = true) {prepared : Prepared κ}
      (hget : E.cache.get cache sql = some prepared) :
      CacheAfter cache useCache sql batch walked
        (E.cache.put (E.cache.touch cache sql) sql { prepared with stmt := walked.stmt })
  | miss (h : useCache = true) (hget : E.cache.get cache sql = none) (info : PreparedInfo) :
      CacheAfter cache useCache sql batch walked (cacheWalked cache sql info batch walked)

/-- Whether a command gets as far as executing its statement.  The cached paths lock the connection,
after preparing the statement if it is not in the cache; the one-shot path allocates a handle. -/
def Session.Executes {E : Env C κ A V} (s : Session E) (f : Faults) (sql : String)
    (arguments : Option (List A)) (persistent : Bool) : Prop :=
  if usesCache arguments persistent = true then
    f.lock = false ∧ (E.cache.get s.actor.stmtCache sql = none →
      ∃ info, E.prepare sql s.actor.conn.working = .ok info)
  else f.preallocate = none

/-- What keeps a statement from being executed. -/
theorem Session.not_executes {arguments : Option (List A)} {persistent : Bool}
    (h : ¬ s.Executes f sql arguments persistent) :
    f.lock = true ∨ f.preallocate ≠ none ∨ usesCache arguments persistent = true ∧
      E.cache.get s.actor.stmtCache sql = none ∧
      ∃ e, E.prepare sql s.actor.conn.working = .error e := by
  rw [Executes] at h
  split at h
  · rename_i hcache
    cases hl : f.lock with
    | true => exact Or.inl rfl
    | false =>
      refine Or.inr (Or.inr ⟨hcache, ?_⟩)
      rw [not_and, Classical.not_imp] at h
      obtain ⟨hget, hprepare⟩ := h hl
      refine ⟨hget, ?_⟩
      cases hp : E.prepare sql s.actor.conn.working with
      | error e => exact ⟨e, rfl⟩
      | ok info => exact absurd ⟨info, hp⟩ hprepare
  · exact Or.inr (Or.inl h)

/-- **Every execution comes down to one walk.**  Either nothing was executed and the session is as
it was, but for a lookup in the cache, or the statement was executed once and its batch walked. -/
theorem handleExecute_cases (f : Faults) (sql : String) (arguments : Option (List A))
    (persistent : Bool) (s : Session E) (hkeyed : CacheKeyed s.actor.stmtCache) :
    (¬ s.Executes f sql arguments persistent ∧ ∃ e cache,
      (cache = s.actor.stmtCache ∨ cache = E.cache.touch s.actor.stmtCache sql) ∧
      handleExecute E f sql arguments persistent s = (.error e, s.setCache cache)) ∨
    s.Executes f sql arguments persistent ∧ ∃ context cache,
      let walked := s.walk context sql (arguments.getD [])
      CacheAfter s.actor.stmtCache (usesCache arguments persistent) sql
        (E.exec sql (arguments.getD []) s.actor.conn.working).1 walked cache ∧
      handleExecute E f sql arguments persistent s = (walked.outcome,
        ((s.execute sql (arguments.getD [])).setWire walked.wire).setCache cache) := by
  rw [handleExecute, Session.Executes]
  by_cases hcache : usesCache arguments persistent = true
  · rw [← usesCache, if_pos hcache, if_pos hcache]
    cases hget : E.cache.get s.actor.stmtCache sql with
    | some prepared =>
      have hlookup : lookup E sql s = (.ok (some prepared),
          s.setCache (E.cache.touch s.actor.stmtCache sql)) := by
        rw [lookup_apply, hget]
      rw [Proc.bind_of_ok hlookup]
      cases hf : f.lock with
      | true => exact Or.inl ⟨by simp, _, _, Or.inr rfl, executeCached_locked hf prepared⟩
      | false =>
        exact Or.inr ⟨by simp, _, _, .hit hcache hget,
          executeCached_apply hf (hkeyed sql prepared hget)⟩
    | none =>
      rw [Proc.bind_of_ok (lookup_of_get_eq_none hget)]
      cases hprepare : E.prepare sql s.actor.conn.working with
      | error e => exact Or.inl ⟨by simp, _, _, Or.inl rfl, executeUncached_refused hprepare⟩
      | ok info =>
        cases hf : f.lock with
        | true => exact Or.inl ⟨by simp, _, _, Or.inl rfl, executeUncached_locked hf hprepare⟩
        | false =>
          exact Or.inr ⟨by simp, _, _, .miss hcache hget info, executeUncached_apply hf hprepare⟩
  · rw [← usesCache, if_neg hcache, if_neg hcache]
    cases hf : f.preallocate with
    | some e => exact Or.inl ⟨by simp, _, _, Or.inl rfl, executeOneShot_unallocated hf⟩
    | none =>
      exact Or.inr ⟨rfl, _, s.actor.stmtCache, .oneShot (by simpa using hcache),
        executeOneShot_apply hf⟩

end MssqlOdbc
