import MssqlOdbc.Connection.Frames
import MssqlOdbc.Transaction.Handlers

/-!
# Running a migration

A migration is recorded only once its whole batch has gone through: `handleApplyMigration` and
`handleRevertMigration` step through every result before they issue the tracking statement.
`Advances` says of a batch that this succeeds, `tracking_iff_advances` is the law.

With a transaction of its own a migration should leave nothing behind when it fails.  The handlers
see to that when the *batch* fails, but not when what comes after it does: the early returns of the
tracking statement and of the commit leave the transaction open and autocommit off.
`migration_atomic_iff` says exactly when a migration is all or nothing.
-/

set_option autoImplicit false

namespace MssqlOdbc

open TxStore

variable {C κ A V : Type} {E : Env C κ A V} {f : Faults}

/-! ## Draining a batch -/

/-- The status a step to this reply comes back with. -/
def Reply.status : Reply κ → SqlResult Unit
  | .result false _ => .success ()
  | .result true _ => .successWithInfo ()
  | .failed failure => failure.toSqlResult

/-- The step to this reply succeeds, and so will the step off it. -/
def Reply.Advances : Reply κ → Prop
  | .result _ r => r.fetchError = none
  | .failed _ => False

/-- Every step from here to the end of the batch succeeds. -/
def StmtHandle.Advances (stmt : StmtHandle κ) : Prop :=
  stmt.result.fetchError = none ∧ ∀ reply ∈ stmt.unread, reply.Advances

/-- The execution of the batch and every step through its results succeed. -/
def Batch.Advances (batch : Batch κ) : Prop :=
  ∃ cursor stmt, batch.executed = (.ok cursor, stmt) ∧ (bareHandle cursor stmt).Advances

/-- The wire after these steps. -/
def Wire.advanced (statuses : List (SqlResult Unit)) (wire : Wire A V) : Wire A V :=
  { wire with trace := wire.trace ++ statuses.map .moreResults }

theorem Wire.advanced_nil (wire : Wire A V) : wire.advanced [] = wire := by
  simp [Wire.advanced]

theorem Wire.advanced_log (status : SqlResult Unit) (statuses : List (SqlResult Unit))
    (wire : Wire A V) :
    (wire.log (.moreResults status)).advanced statuses = wire.advanced (status :: statuses) := by
  simp [Wire.advanced, Wire.log]

/-- The handle on the reply it has stepped to. -/
def Reply.landed (rest : List (Reply κ)) : Reply κ → StmtHandle κ
  | .result _ r => ⟨some r, rest⟩
  | .failed _ => ⟨none, rest⟩

theorem moreResults_nil {stmt : StmtHandle κ} (hfetch : stmt.result.fetchError = none)
    (hunread : stmt.unread = []) : stmt.moreResults = (.noData, .closed) := by
  rw [StmtHandle.moreResults, hfetch, hunread]

theorem moreResults_cons {stmt : StmtHandle κ} {reply : Reply κ} {rest : List (Reply κ)}
    (hfetch : stmt.result.fetchError = none) (hunread : stmt.unread = reply :: rest) :
    stmt.moreResults = (reply.status, reply.landed rest) := by
  rw [StmtHandle.moreResults, hfetch, hunread]
  rcases reply with ⟨_ | _, r⟩ | failure <;> rfl

/-- **A batch that advances to its end is drained, step by step.** -/
theorem drainResultSets_of_advances (rest : List (Reply κ)) {stmt : StmtHandle κ}
    (hrest : stmt.unread = rest) (h : stmt.Advances) (wire : Wire A V) :
    drainResultSets stmt wire =
      ⟨.ok (), .closed, wire.advanced (rest.map Reply.status ++ [.noData])⟩ := by
  induction rest generalizing stmt wire with
  | nil =>
    rw [drainResultSets_eq, moreResults_nil h.1 hrest]
    rfl
  | cons reply rest ih =>
    have hreply : reply.Advances := h.2 reply (by simp [hrest])
    have hbehind : ∀ reply' ∈ rest, reply'.Advances := fun r hr ↦ h.2 r (by simp [hrest, hr])
    rw [drainResultSets_eq, moreResults_cons h.1 hrest, List.map_cons, List.cons_append,
      ← Wire.advanced_log]
    rcases reply with ⟨_ | _, r⟩ | failure
    · have hnext : (Reply.landed rest (.result false r)).Advances := ⟨hreply, hbehind⟩
      exact ih rfl hnext _
    · have hnext : (Reply.landed rest (.result true r)).Advances := ⟨hreply, hbehind⟩
      exact ih rfl hnext _
    · exact absurd hreply id

theorem drainResultSets_of_fetchError {stmt : StmtHandle κ} {e : OdbcError}
    (hfetch : stmt.result.fetchError = some e) (wire : Wire A V) :
    drainResultSets stmt wire =
      ⟨.error (statementError (.error e) "failed to advance ODBC result set"),
        ⟨none, stmt.unread⟩, wire.advanced [.error e]⟩ := by
  rw [drainResultSets_eq, StmtHandle.moreResults, hfetch]
  rfl

/-- A batch that does not is drained up to the step that fails. -/
theorem drainResultSets_of_not_advances (rest : List (Reply κ)) {stmt : StmtHandle κ}
    (hrest : stmt.unread = rest) (h : ¬ stmt.Advances) (wire : Wire A V) :
    ∃ e next statuses, .noData ∉ statuses ∧
      drainResultSets stmt wire = ⟨.error e, next, wire.advanced statuses⟩ := by
  induction rest generalizing stmt wire with
  | nil =>
    cases hfetch : stmt.result.fetchError with
    | none => exact absurd ⟨hfetch, by simp [hrest]⟩ h
    | some e => exact ⟨_, _, [.error e], by simp, drainResultSets_of_fetchError hfetch wire⟩
  | cons reply rest ih =>
    cases hfetch : stmt.result.fetchError with
    | some e => exact ⟨_, _, [.error e], by simp, drainResultSets_of_fetchError hfetch wire⟩
    | none =>
      rw [drainResultSets_eq, moreResults_cons hfetch hrest]
      have hnot : reply.Advances → ¬ ∀ reply' ∈ rest, reply'.Advances := fun hreply hbehind ↦
        h ⟨hfetch, by rw [hrest]; exact List.forall_mem_cons.2 ⟨hreply, hbehind⟩⟩
      -- a result is stepped to and the rest is drained; a failed reply ends the draining
      have hstep (info : Bool) (r : Result κ) (hr : reply = .result info r) :
          ∃ e next statuses, .noData ∉ statuses ∧
            drainResultSets (reply.landed rest) (wire.log (.moreResults reply.status)) =
              ⟨.error e, next, wire.advanced statuses⟩ := by
        have hnext : ¬ (reply.landed rest).Advances := by
          subst hr
          exact fun hadvances ↦ hnot hadvances.1 hadvances.2
        obtain ⟨e, next, statuses, hmem, hdrain⟩ :=
          ih (by subst hr; rfl) hnext (wire.log (.moreResults reply.status))
        rw [Wire.advanced_log] at hdrain
        refine ⟨e, next, reply.status :: statuses, ?_, hdrain⟩
        subst hr
        cases info <;> simpa [Reply.status] using hmem
      rcases reply with ⟨_ | _, r⟩ | failure
      · exact hstep false r rfl
      · exact hstep true r rfl
      · rcases failure with e | _ | _
        · exact ⟨_, _, [.error e], by simp, rfl⟩
        · exact ⟨_, _, [.needData], by simp, rfl⟩
        · exact ⟨_, _, [.stillExecuting], by simp, rfl⟩

/-! ## The batch of a migration -/

/-- The session after a batch that took these steps. -/
def Session.migrated (sql : String) (statuses : List (SqlResult Unit)) (s : Session E) :
    Session E :=
  (s.execute sql []).setWire ((s.execute sql []).wire.advanced statuses)

section Batch

variable {texts : MigrationTexts} {sql : String} {s : Session E}

theorem migrationBatch_unallocated {e : OdbcError} (hf : f.preallocate = some e) :
    migrationBatch E f texts sql s = (.error (databaseError texts.allocate e), s) := by
  rw [migrationBatch, preallocate, hf]
  rfl

theorem migrationBatch_of_advances (hf : f.preallocate = none)
    (h : (E.exec sql [] s.actor.conn.working).1.Advances) :
    migrationBatch E f texts sql s = (.ok (), s.migrated sql
      ((E.exec sql [] s.actor.conn.working).1.rest.map Reply.status ++ [.noData])) := by
  obtain ⟨cursor, stmt, hexecuted, hadvances⟩ := h
  rw [migrationBatch, Proc.bind_of_ok (a := ()) (t := s) (by rw [preallocate, hf]; rfl),
    Proc.bind_of_ok executeStatement_apply, hexecuted]
  simp only [drain]
  have hunread : (bareHandle cursor stmt).unread =
      (E.exec sql [] s.actor.conn.working).1.rest := by
    obtain ⟨r, -, -, hbare⟩ := Batch.executed_ok hexecuted
    rw [hbare]
  rw [drainResultSets_of_advances _ hunread hadvances]
  rfl

theorem migrationBatch_of_not_advances (texts : MigrationTexts) (hf : f.preallocate = none)
    (h : ¬ (E.exec sql [] s.actor.conn.working).1.Advances) :
    ∃ e statuses, .noData ∉ statuses ∧
      migrationBatch E f texts sql s = (.error e, s.migrated sql statuses) := by
  rw [migrationBatch, Proc.bind_of_ok (a := ()) (t := s) (by rw [preallocate, hf]; rfl),
    Proc.bind_of_ok executeStatement_apply]
  rcases hexecuted : (E.exec sql [] s.actor.conn.working).1.executed with ⟨e | cursor, stmt⟩
  · refine ⟨databaseError texts.execute e, [], by simp, ?_⟩
    rw [Session.migrated, Wire.advanced_nil]
    rfl
  · have hstmt : ¬ (bareHandle cursor stmt).Advances := fun hadvances ↦
      h ⟨cursor, stmt, hexecuted, hadvances⟩
    obtain ⟨e, next, statuses, hmem, hdrain⟩ :=
      drainResultSets_of_not_advances _ rfl hstmt (s.execute sql []).wire
    refine ⟨e, statuses, hmem, ?_⟩
    simp only [drain, hdrain]
    rfl

/-- How the batch of a migration can end. -/
theorem migrationBatch_cases {s' : Session E} {r : Except Error Unit}
    (h : migrationBatch E f texts sql s = (r, s')) :
    (∃ e, r = .error e ∧ s' = s ∧ f.preallocate ≠ none) ∨
    f.preallocate = none ∧
      ((¬ (E.exec sql [] s.actor.conn.working).1.Advances ∧
        ∃ e statuses, .noData ∉ statuses ∧ r = .error e ∧ s' = s.migrated sql statuses) ∨
      ((E.exec sql [] s.actor.conn.working).1.Advances ∧ r = .ok () ∧ s' = s.migrated sql
        ((E.exec sql [] s.actor.conn.working).1.rest.map Reply.status ++ [.noData]))) := by
  cases hf : f.preallocate with
  | some e =>
    rw [migrationBatch_unallocated hf] at h
    cases h
    exact Or.inl ⟨_, rfl, rfl, by simp⟩
  | none =>
    refine Or.inr ⟨rfl, ?_⟩
    by_cases hadvances : (E.exec sql [] s.actor.conn.working).1.Advances
    · rw [migrationBatch_of_advances hf hadvances] at h
      cases h
      exact Or.inr ⟨hadvances, rfl, rfl⟩
    · obtain ⟨e, statuses, hmem, hbatch⟩ :=
        migrationBatch_of_not_advances texts hf hadvances
      rw [hbatch] at h
      cases h
      exact Or.inl ⟨hadvances, e, statuses, hmem, rfl, rfl⟩

end Batch

/-! ## The migration -/

/-- The session in which the batch runs: in a transaction of its own, unless `noTx`. -/
def Session.started (noTx : Bool) (s : Session E) : Session E :=
  if noTx then s else s.setConn (s.actor.conn.setAutocommit false)

/-- The connection after the tracking statement. -/
def Session.tracked (trackingSql : String) (s : Session E) : Connection C :=
  s.actor.conn.write fun contents ↦ (E.exec trackingSql [] contents).2

/-- What the tracking statement answers. -/
def Session.trackingAnswer (trackingSql : String) (s : Session E) :
    Except OdbcError (Option (CursorImpl κ)) :=
  (E.exec trackingSql [] s.actor.conn.working).1.executed.1

/-- How a migration ends once its batch has gone through: `conn` is the connection it leaves. -/
inductive Tracked (f : Faults) (noTx : Bool) (trackingSql : String) (s : Session E) :
    Except Error Unit → Connection C → Prop
  | refused (e : Error) {e' : OdbcError} (h : s.trackingAnswer trackingSql = .error e') :
      Tracked f noTx trackingSql s (.error e) (s.tracked trackingSql)
  | noTransaction {c : Option (CursorImpl κ)} (h : s.trackingAnswer trackingSql = .ok c)
      (hnoTx : noTx = true) : Tracked f noTx trackingSql s (.ok ()) (s.tracked trackingSql)
  | notCommitted (e : Error) {c : Option (CursorImpl κ)}
      (h : s.trackingAnswer trackingSql = .ok c) (hnoTx : noTx = false)
      (hcommit : f.commit ≠ none) :
      Tracked f noTx trackingSql s (.error e) (s.tracked trackingSql)
  | notRestored (e : Error) {c : Option (CursorImpl κ)}
      (h : s.trackingAnswer trackingSql = .ok c) (hnoTx : noTx = false) (hcommit : f.commit = none)
      (hauto : f.setAutocommit true ≠ none) :
      Tracked f noTx trackingSql s (.error e) (s.tracked trackingSql).commit
  | committed {c : Option (CursorImpl κ)} (h : s.trackingAnswer trackingSql = .ok c)
      (hnoTx : noTx = false) (hcommit : f.commit = none) (hauto : f.setAutocommit true = none) :
      Tracked f noTx trackingSql s (.ok ()) ((s.tracked trackingSql).commit.setAutocommit true)

section Behind

variable (E) (f)

/-- What follows a batch that failed. -/
def undoMigration (noTx : Bool) (e : Error) : Handler E Unit := do
  Proc.skipIf (do
    (rollback E f).ignore
    (setAutocommit E f true).ignore) noTx
  .fail e

/-- What follows a batch that has gone through. -/
def trackMigration (texts : MigrationTexts) (trackingSql : String) (noTx : Bool) :
    Handler E Unit := do
  let _ ← (executeOnConnection E f (.text trackingSql)).mapError (databaseError texts.track)
  Proc.skipIf (do
    (commit E f).mapError (databaseError texts.commit)
    (setAutocommit E f true).mapError (databaseError texts.restore)) noTx

end Behind

/-- A migration that could be started comes down to its batch and what follows it. -/
theorem runMigration_started (hlock : f.lock = false) {noTx : Bool}
    (hauto : noTx = false → f.setAutocommit false = none) (texts : MigrationTexts)
    (sql trackingSql : String) (s : Session E) :
    runMigration E f texts sql trackingSql noTx s =
      match migrationBatch E f texts sql (s.started noTx) with
      | (.error e, s₁) => undoMigration E f noTx e s₁
      | (.ok (), s₁) => trackMigration E f texts trackingSql noTx s₁ := by
  have hlocked (message : String) : lock E f message s = (.ok (), s) := by
    rw [lock, hlock]
    rfl
  have hstarted : (((setAutocommit E f false).mapError (databaseError texts.start)).skipIf noTx) s =
      (.ok (), s.started noTx) := by
    cases noTx with
    | true => rfl
    | false => rw [Proc.skipIf_false, setAutocommit, hauto rfl]; rfl
  rw [runMigration, Proc.bind_of_ok (hlocked _), Proc.bind_of_ok hstarted, Proc.bind_apply,
    Proc.attempt_apply]
  rcases migrationBatch E f texts sql (s.started noTx) with ⟨e | u, s₁⟩ <;> rfl

theorem runMigration_not_started {noTx : Bool}
    (h : f.lock = true ∨ noTx = false ∧ f.setAutocommit false ≠ none) (texts : MigrationTexts)
    (sql trackingSql : String) (s : Session E) :
    ∃ e, runMigration E f texts sql trackingSql noTx s = (.error e, s) := by
  cases hlock : f.lock with
  | true =>
    have hlocked (message : String) :
        lock E f message s = (.error (.protocol message), s) := by
      rw [lock, hlock]
      rfl
    exact ⟨_, by rw [runMigration, Proc.bind_of_error (hlocked _)]⟩
  | false =>
    obtain ⟨rfl, hauto⟩ := h.resolve_left (by simp [hlock])
    obtain ⟨e, he⟩ := Option.ne_none_iff_exists'.mp hauto
    have hlocked (message : String) : lock E f message s = (.ok (), s) := by
      rw [lock, hlock]
      rfl
    have hstart : ((setAutocommit E f false).mapError (databaseError texts.start)) s =
        (.error (databaseError texts.start e), s) := by
      rw [setAutocommit, he]
      rfl
    exact ⟨_, by rw [runMigration, Proc.bind_of_ok (hlocked _), Proc.skipIf_false,
      Proc.bind_of_error hstart]⟩

/-- Undoing touches nothing but the connection, and with a transaction rolls it back and switches
autocommit on as far as the calls succeed. -/
theorem undoMigration_apply (noTx : Bool) (e : Error) (s : Session E) :
    ∃ conn, undoMigration E f noTx e s = (.error e, s.setConn conn) ∧
      (noTx = true → conn = s.actor.conn) ∧
      (noTx = false → f.rollback = none → f.setAutocommit true = none →
        conn = s.actor.conn.rollback.setAutocommit true) := by
  cases noTx with
  | true => exact ⟨s.actor.conn, rfl, fun _ ↦ rfl, by simp⟩
  | false =>
    refine ⟨ignored (f.setAutocommit true) (Store.setAutocommit true)
      (ignored f.rollback Store.rollback s.actor.conn), ?_, by simp, fun _ hf hf' ↦ ?_⟩
    · rw [undoMigration, Proc.skipIf_false, Proc.bind_apply, Proc.ignore_bind_apply,
        Proc.ignore_apply, rollback, connectionCall_snd, setAutocommit, connectionCall_snd]
      rfl
    · rw [hf, hf']
      rfl

theorem trackMigration_cases {texts : MigrationTexts} {trackingSql : String} {noTx : Bool}
    {s s' : Session E} {r : Except Error Unit}
    (h : trackMigration E f texts trackingSql noTx s = (r, s')) :
    ∃ conn, Tracked f noTx trackingSql s r conn ∧
      s' = (s.setConn conn).log (.executedOnConnection (.text trackingSql)) := by
  obtain ⟨e, htrack, rfl⟩ | ⟨c, s₁, htrack, h₁⟩ := Proc.bind_cases h
  · obtain ⟨e', htrack, -⟩ := Proc.mapError_error htrack
    rw [executeOnConnection_text] at htrack
    obtain ⟨hanswer, rfl⟩ := Prod.mk.inj htrack
    exact ⟨_, .refused e hanswer, rfl⟩
  have htracked := Proc.mapError_ok htrack
  rw [executeOnConnection_text] at htracked
  obtain ⟨hanswer, rfl⟩ := Prod.mk.inj htracked
  cases noTx with
  | true =>
    cases h₁
    exact ⟨_, .noTransaction hanswer rfl, rfl⟩
  | false =>
    rw [Proc.skipIf_false] at h₁
    obtain ⟨e, rfl, hcommit, rfl⟩ | ⟨hcommitted, h₂⟩ := connectionCall_bind h₁
    · exact ⟨_, .notCommitted e hanswer rfl hcommit, rfl⟩
    cases r with
    | error e =>
      obtain ⟨e', hauto, -⟩ := Proc.mapError_error h₂
      obtain ⟨hf, rfl⟩ := connectionCall_error hauto
      exact ⟨_, .notRestored e hanswer rfl hcommitted (by simp [hf]), rfl⟩
    | ok u =>
      obtain ⟨hf, rfl⟩ := connectionCall_ok (Proc.mapError_ok h₂)
      exact ⟨_, .committed hanswer rfl hcommitted hf, rfl⟩

/-- How a migration can end: before its batch is run, with the batch, or behind it. -/
theorem runMigration_cases {texts : MigrationTexts} {sql trackingSql : String} {noTx : Bool}
    {s s' : Session E} {r : Except Error Unit}
    (h : runMigration E f texts sql trackingSql noTx s = (r, s')) :
    (∃ e, r = .error e ∧ s' = s ∧
      (f.lock = true ∨ noTx = false ∧ f.setAutocommit false ≠ none)) ∨
    f.lock = false ∧ (
    (∃ e s₁, migrationBatch E f texts sql (s.started noTx) = (.error e, s₁) ∧ r = .error e ∧
      ∃ conn, s' = s₁.setConn conn ∧ (noTx = true → conn = s₁.actor.conn) ∧
        (noTx = false → f.rollback = none → f.setAutocommit true = none →
          conn = s₁.actor.conn.rollback.setAutocommit true)) ∨
    (∃ s₁, migrationBatch E f texts sql (s.started noTx) = (.ok (), s₁) ∧
      ∃ conn, Tracked f noTx trackingSql s₁ r conn ∧
        s' = (s₁.setConn conn).log (.executedOnConnection (.text trackingSql)))) := by
  by_cases hstart : f.lock = true ∨ noTx = false ∧ f.setAutocommit false ≠ none
  · obtain ⟨e, hrun⟩ := runMigration_not_started hstart texts sql trackingSql s
    rw [hrun] at h
    cases h
    exact Or.inl ⟨e, rfl, rfl, hstart⟩
  obtain ⟨hlock, hauto⟩ := not_or.mp hstart
  have hlock : f.lock = false := by simpa using hlock
  refine Or.inr ⟨hlock, ?_⟩
  rw [runMigration_started hlock (fun hnoTx ↦ not_not.mp fun hne ↦ hauto ⟨hnoTx, hne⟩)] at h
  rcases hbatch : migrationBatch E f texts sql (s.started noTx) with ⟨e | u, s₁⟩
  · rw [hbatch] at h
    obtain ⟨conn, hundo, hconn⟩ := undoMigration_apply (f := f) noTx e s₁
    obtain ⟨rfl, rfl⟩ := Prod.mk.inj (hundo.symm.trans h)
    exact Or.inl ⟨e, s₁, rfl, rfl, conn, rfl, hconn⟩
  · rw [hbatch] at h
    exact Or.inr ⟨s₁, rfl, trackMigration_cases h⟩

/-- The two directions a migration is run in. -/
inductive Direction where
  | apply
  | revert
deriving DecidableEq, Repr

namespace Direction

def handler (E : Env C κ A V) (f : Faults) :
    Direction → String → String → ℤ → Bool → Handler E Unit
  | apply => handleApplyMigration E f
  | revert => handleRevertMigration E f

def texts : Direction → ℤ → MigrationTexts
  | apply => applyTexts
  | revert => revertTexts

theorem handler_eq (direction : Direction) (sql trackingSql : String) (version : ℤ)
    (noTx : Bool) : direction.handler E f sql trackingSql version noTx =
      runMigration E f (direction.texts version) sql trackingSql noTx := by
  cases direction <;> rfl

end Direction

/-! ## The tracking statement -/

theorem Session.working_started (noTx : Bool) (s : Session E) :
    (s.started noTx).actor.conn.working = s.actor.conn.working := by
  cases noTx with
  | true => rfl
  | false => exact Store.working_setAutocommit_false _

theorem Session.wire_started (noTx : Bool) (s : Session E) : (s.started noTx).wire = s.wire := by
  cases noTx <;> rfl

/-- The events of a batch: its execution, and the steps through its results. -/
def batchEvents (sql : String) (statuses : List (SqlResult Unit)) : List (Event A V) :=
  .executed sql [] :: statuses.map .moreResults

theorem trace_migrated (sql : String) (statuses : List (SqlResult Unit)) (noTx : Bool)
    (actor : ConnectionActor E) :
    (((⟨actor, ⟨none, []⟩⟩ : Session E).started noTx).migrated sql statuses).wire.trace =
      batchEvents sql statuses := by
  show ((⟨actor, ⟨none, []⟩⟩ : Session E).started noTx).wire.trace ++ _ ++ _ = _
  rw [Session.wire_started]
  rfl

/-- **The tracking law**, for both directions, with a transaction or without, and whatever fails:
the tracking statement is issued if and only if the batch was executed and advanced to its end; it
is then issued once, behind the last result; and a batch that does not advance to its end makes the
migration fail. -/
theorem tracking_iff_advances (E : Env C κ A V) (f : Faults) (direction : Direction)
    (sql trackingSql : String) (version : ℤ) (noTx : Bool) (actor : ConnectionActor E) :
    let batch := (E.exec sql [] actor.conn.working).1
    let (result, s) := direction.handler E f sql trackingSql version noTx ⟨actor, ⟨none, []⟩⟩
    let trace := s.wire.trace
    let issued := .executedOnConnection (.text trackingSql) ∈ trace
    (issued ↔ .executed sql [] ∈ trace ∧ batch.Advances) ∧
    (issued ↔ .executed sql [] ∈ trace ∧ .moreResults .noData ∈ trace) ∧
    (issued → trace = batchEvents sql (batch.rest.map Reply.status ++ [.noData]) ++
      [.executedOnConnection (.text trackingSql)]) ∧
    (¬ batch.Advances → ∃ e, result = .error e) := by
  rw [Direction.handler_eq]
  generalize hrun : runMigration E f (direction.texts version) sql trackingSql noTx
    ⟨actor, ⟨none, []⟩⟩ = p
  obtain ⟨result, s⟩ := p
  simp only
  obtain ⟨e, rfl, rfl, -⟩ | ⟨-, hcases⟩ := runMigration_cases hrun
  · simp
  rcases hcases with ⟨e, s₁, hbatch, rfl, conn, rfl, -⟩ | ⟨s₁, hbatch, conn, -, rfl⟩
  · obtain ⟨_, -, rfl, -⟩ | ⟨-, ⟨hnot, _, statuses, hmem, -, rfl⟩ | ⟨-, hok, -⟩⟩ :=
      migrationBatch_cases hbatch
    · rw [Session.setConn_wire, Session.wire_started]
      simp
    · rw [Session.working_started] at hnot
      rw [Session.setConn_wire, trace_migrated]
      simp [batchEvents, hnot, hmem]
    · cases hok
  · obtain ⟨_, hr, -⟩ | ⟨-, ⟨-, _, -, -, hr, -⟩ | ⟨hadvances, -, rfl⟩⟩ :=
      migrationBatch_cases hbatch
    · cases hr
    · cases hr
    rw [Session.working_started] at hadvances
    rw [Session.log_wire, Session.setConn_wire, Wire.log, trace_migrated, Session.working_started]
    simp [batchEvents, hadvances]

/-! ## All or nothing -/

/-- A migration run on the contents `contents` was all or nothing: autocommit is on, so that nothing
is pending, and what is committed is everything it does if it succeeded and nothing if it failed. -/
def AllOrNothing (E : Env C κ A V) (sql trackingSql : String) (contents : C)
    (result : Except Error Unit) (conn : Connection C) : Prop :=
  conn.autocommit = true ∧
    match result with
    | .ok () => conn.committed = (E.exec trackingSql [] (E.exec sql [] contents).2).2
    | .error _ => conn.committed = contents

/-- **When a migration is all or nothing.**  With a transaction of its own, on a connection in
autocommit mode, and as long as rolling back and switching autocommit work: exactly if it fails no
later than with its batch, or the tracking statement and the commit both succeed. -/
theorem migration_atomic_iff (E : Env C κ A V) (f : Faults) (hrollback : f.rollback = none)
    (hauto : ∀ on, f.setAutocommit on = none) (direction : Direction) (sql trackingSql : String)
    (version : ℤ) (actor : ConnectionActor E) (hconn : actor.conn.autocommit = true) :
    let contents := actor.conn.committed
    let (result, s) :=
      direction.handler E f sql trackingSql version false ⟨actor, ⟨none, []⟩⟩
    AllOrNothing E sql trackingSql contents result s.actor.conn ↔
      f.lock = true ∨ f.preallocate ≠ none ∨ ¬ (E.exec sql [] contents).1.Advances ∨
      (∃ cursor, (E.exec trackingSql [] (E.exec sql [] contents).2).1.executed.1 = .ok cursor) ∧
        f.commit = none := by
  obtain ⟨⟨contents, tx⟩, cache, depth, settings⟩ := actor
  obtain rfl : tx = none := by simpa [Store.autocommit] using hconn
  rw [Direction.handler_eq]
  generalize hrun : runMigration E f (direction.texts version) sql trackingSql false
    ⟨⟨⟨contents, none⟩, cache, depth, settings⟩, ⟨none, []⟩⟩ = p
  obtain ⟨result, s⟩ := p
  simp only
  obtain ⟨e, rfl, rfl, hwhy⟩ | ⟨hlock, hcases⟩ := runMigration_cases hrun
  · refine iff_of_true ⟨rfl, rfl⟩ (Or.inl ?_)
    rcases hwhy with hl | ⟨-, hf⟩
    · exact hl
    · exact absurd (hauto false) hf
  -- the transaction of the migration starts from what is committed
  have hstarted : (Session.started false
      (⟨⟨⟨contents, none⟩, cache, depth, settings⟩, ⟨none, []⟩⟩ : Session E)).actor.conn =
      ⟨contents, some ⟨contents, []⟩⟩ := rfl
  rcases hcases with ⟨e, s₁, hbatch, rfl, conn, rfl, -, hundone⟩ | ⟨s₁, hbatch, conn, htracked, rfl⟩
  · rw [hundone rfl hrollback (hauto true)]
    obtain ⟨_, -, rfl, hf⟩ | ⟨-, ⟨hnot, _, statuses, -, -, rfl⟩ | ⟨-, hok, -⟩⟩ :=
      migrationBatch_cases hbatch
    · exact iff_of_true ⟨rfl, rfl⟩ (Or.inr (Or.inl hf))
    · exact iff_of_true ⟨rfl, rfl⟩ (Or.inr (Or.inr (Or.inl hnot)))
    · cases hok
  · obtain ⟨_, hr, -⟩ | ⟨hf, ⟨-, _, -, -, hr, -⟩ | ⟨hadvances, -, rfl⟩⟩ :=
      migrationBatch_cases hbatch
    · cases hr
    · cases hr
    -- with the batch behind it, it is up to the tracking statement and the commit
    have hbehind (P : Prop) : (f.lock = true ∨ f.preallocate ≠ none ∨
        ¬ (E.exec sql [] contents).1.Advances ∨ P) ↔ P := by
      have hadvances : (E.exec sql [] contents).1.Advances := hadvances
      simp [hlock, hf, hadvances]
    rw [hbehind]
    cases htracked with
    | refused e h =>
      refine iff_of_false (fun hall ↦ Bool.false_ne_true hall.1) ?_
      rintro ⟨⟨c, hc⟩, -⟩
      cases h.symm.trans hc
    | noTransaction h hnoTx => cases hnoTx
    | notCommitted e h hnoTx hcommit =>
      exact iff_of_false (fun hall ↦ Bool.false_ne_true hall.1) fun hsucceed ↦ hcommit hsucceed.2
    | notRestored e h hnoTx hcommit hauto' => exact absurd (hauto true) hauto'
    | committed h hnoTx hcommit hauto' => exact iff_of_true ⟨rfl, rfl⟩ ⟨⟨_, h⟩, hcommit⟩

/-- A migration that goes through. -/
theorem migration_atomic_quiet :
    let (result, s) := Direction.apply.handler Env.quiet .none "migrate" "track" 1 false
      ⟨.connect Env.quiet [] 100 default, ⟨none, []⟩⟩
    AllOrNothing Env.quiet "migrate" "track" [] result s.actor.conn :=
  (migration_atomic_iff Env.quiet .none rfl (fun _ ↦ rfl) .apply "migrate" "track" 1
    (.connect Env.quiet [] 100 default) rfl).2 (Or.inr (Or.inr (Or.inr ⟨⟨none, rfl⟩, rfl⟩)))

/-- The recording server, which refuses the tracking statement. -/
def refusesTracking : Env (List String) ℤ ℤ ℤ := .recorder fun sql ↦
  if sql = "track" then ⟨.error ⟨some ⟨"23000", "duplicate key"⟩, ""⟩, []⟩
  else ⟨.ok (.ofCount 0), []⟩

/-- The migration fails, and what its batch wrote is pending on a connection with autocommit off. -/
theorem migration_left_open :
    ∃ e s, handleApplyMigration refusesTracking .none "migrate" "track" 1 false
        ⟨.connect refusesTracking [] 100 default, ⟨none, []⟩⟩ = (.error e, s) ∧
      s.actor.conn = ⟨[], some ⟨["migrate"], []⟩⟩ := by
  have hbatch : migrationBatch refusesTracking .none (applyTexts 1) "migrate"
      (Session.started false ⟨.connect refusesTracking [] 100 default, ⟨none, []⟩⟩) =
      (.ok (), _) :=
    migrationBatch_of_advances rfl ⟨none, _, rfl, rfl, List.forall_mem_nil _⟩
  refine ⟨databaseError (applyTexts 1).track ⟨some ⟨"23000", "duplicate key"⟩, ""⟩,
    ((Session.migrated "migrate" [.noData] (Session.started false
      ⟨.connect refusesTracking [] 100 default, ⟨none, []⟩⟩)).setConn
        ⟨[], some ⟨["migrate"], []⟩⟩).log (.executedOnConnection (.text "track")), ?_, rfl⟩
  rw [handleApplyMigration, runMigration_started rfl (fun _ ↦ rfl), hbatch]
  rfl

end MssqlOdbc
