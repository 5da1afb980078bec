import MssqlOdbc.Lib.Run
import MssqlOdbc.Migration
import MssqlOdbc.Transaction.Depth

/-!
# Autocommit and the depth

Six handlers switch autocommit.  The four transaction handlers look at the depth and keep it true
that autocommit is off exactly inside a transaction.  The migration handlers do not look: with a
transaction of their own they always end with autocommit on, which is right outside every
transaction and wrong inside one, where they have ended the caller's transaction as well.

`autocommit_iff` makes this exact over all runs of the actor.
-/

set_option autoImplicit false

namespace MssqlOdbc

open TxStore

variable {C κ A V : Type} {E : Env C κ A V} {f : Faults}

namespace Command

/-- The statement a migration is recorded with. -/
def trackingSql : Command A → Option String
  | .applyMigration _ insertSql _ _ => some insertSql
  | .revertMigration _ deleteSql _ _ => some deleteSql
  | _ => none

/-- A migration that is to run in a transaction of its own. -/
def ownsTransaction : Command A → Bool
  | .applyMigration _ _ _ noTx | .revertMigration _ _ _ noTx => !noTx
  | _ => false

end Command

/-! ## Migrations -/

section Migration

variable {texts : MigrationTexts} {sql trackingSql : String} {s s' : Session E}
  {r : Except Error Unit}

/-- A migration in a transaction of its own ends with autocommit on, whether its batch succeeds or
fails. -/
theorem autocommit_runMigration (hf : f.CallsSucceed)
    (htracking : ∀ contents, ∃ cursor, (E.exec trackingSql [] contents).1.executed.1 = .ok cursor)
    (h : runMigration E f texts sql trackingSql false s = (r, s')) :
    s'.actor.conn.autocommit = true := by
  obtain ⟨e, -, -, hl | ⟨-, hauto⟩⟩ | ⟨-, ⟨e, s₁, -, -, conn, rfl, -, hundone⟩ |
    ⟨s₁, -, conn, htracked, rfl⟩⟩ := runMigration_cases h
  · rw [hf.lock] at hl
    cases hl
  · exact absurd (hf.setAutocommit false) hauto
  · rw [hundone rfl hf.rollback (hf.setAutocommit true)]
    exact Store.autocommit_setAutocommit true _
  · cases htracked with
    | refused e hanswer =>
      obtain ⟨cursor, hcursor⟩ := htracking s₁.actor.conn.working
      cases hanswer.symm.trans hcursor
    | noTransaction hanswer hnoTx => cases hnoTx
    | notCommitted e hanswer hnoTx hcommit => exact absurd hf.commit hcommit
    | notRestored e hanswer hnoTx hcommit hauto => exact absurd (hf.setAutocommit true) hauto
    | committed hanswer hnoTx hcommit hauto => exact Store.autocommit_setAutocommit true _

/-- A migration without a transaction of its own writes, like any statement. -/
theorem written_runMigration (h : runMigration E f texts sql trackingSql true s = (r, s')) :
    ∃ g, s'.actor.conn = s.actor.conn.write g := by
  have hbatch {s₁ : Session E} {r₁ : Except Error Unit}
      (h₁ : migrationBatch E f texts sql (s.started true) = (r₁, s₁)) :
      ∃ g, s₁.actor.conn = s.actor.conn.write g := by
    obtain ⟨_, -, rfl, -⟩ | ⟨-, ⟨-, _, statuses, -, -, rfl⟩ | ⟨-, -, rfl⟩⟩ :=
      migrationBatch_cases h₁
    · exact ⟨id, (Store.write_id _).symm⟩
    · exact ⟨fun contents ↦ (E.exec sql [] contents).2, rfl⟩
    · exact ⟨fun contents ↦ (E.exec sql [] contents).2, rfl⟩
  obtain ⟨e, rfl, rfl, -⟩ | ⟨-, ⟨e, s₁, h₁, rfl, conn, rfl, hconn, -⟩ |
    ⟨s₁, h₁, conn, htracked, rfl⟩⟩ := runMigration_cases h
  · exact ⟨id, (Store.write_id _).symm⟩
  · rw [hconn rfl]
    exact hbatch h₁
  · obtain ⟨g, hg⟩ := hbatch h₁
    obtain rfl : conn = s₁.tracked trackingSql := by
      cases htracked with
      | refused e hanswer => rfl
      | noTransaction hanswer hnoTx => rfl
      | notCommitted e hanswer hnoTx hcommit => cases hnoTx
      | notRestored e hanswer hnoTx hcommit hauto => cases hnoTx
      | committed hanswer hnoTx hcommit hauto => cases hnoTx
    refine ⟨(fun contents ↦ (E.exec trackingSql [] contents).2) ∘ g, ?_⟩
    rw [Session.log_actor, Session.setConn_actor, Session.tracked, hg, Store.write_write]

end Migration

/-! ## Commands -/

namespace ConnectionActor

/-- What an open transaction wrote is not published by the command, unless it is the commit of the
only open level. -/
def KeepsPrivate (actor : ConnectionActor E) (command : Command A)
    (actor' : ConnectionActor E) : Prop :=
  1 ≤ actor.transactionDepth → actor'.conn.committed = actor.conn.committed ∨
    command = .commit ∧ actor.transactionDepth = 1

variable {actor : ConnectionActor E} {job : Job A}

/-- A statement leaves the mode alone and publishes nothing while a transaction is open. -/
theorem of_write {command : Command A} {actor' : ConnectionActor E} {g : C → C}
    (h : actor.OffInside) (hconn : actor'.conn = actor.conn.write g)
    (hdepth : actor'.transactionDepth = actor.transactionDepth) :
    actor'.OffInside ∧ actor.KeepsPrivate command actor' := by
  constructor
  · rw [OffInside, hconn, hdepth, Store.autocommit_write]
    exact h
  · intro hopen
    rw [hconn]
    exact Or.inl (Store.committed_write_of_open (h.2 hopen))

theorem of_begin (h : actor.OffInside) (f : Faults) (room : Option ℕ) :
    (actor.step ⟨.begin, f, room⟩).OffInside ∧
      actor.KeepsPrivate .begin (actor.step ⟨.begin, f, room⟩) := by
  have hrun := Prod.eta (handleBegin E f ⟨actor, ⟨none, []⟩⟩)
  refine ⟨(TransactionCall.begin.handler_depth hrun.symm h).1, fun hopen ↦ Or.inl ?_⟩
  obtain hactor | ⟨hd, -⟩ | ⟨-, conn, hsave, hactor⟩ := actor.step_begin_cases f room
  · rw [hactor]
  · omega
  · rw [hactor]
    exact (Store.of_save hsave).2

theorem of_commit (h : actor.OffInside) (f : Faults) (room : Option ℕ) :
    (actor.step ⟨.commit, f, room⟩).OffInside ∧
      actor.KeepsPrivate .commit (actor.step ⟨.commit, f, room⟩) := by
  have hrun := Prod.eta (handleCommit E f ⟨actor, ⟨none, []⟩⟩)
  refine ⟨(TransactionCall.commit.handler_depth hrun.symm h).1, fun hopen ↦ ?_⟩
  obtain ⟨hd, -⟩ | ⟨hd, -⟩ | ⟨hd, -⟩ | ⟨-, hactor⟩ := actor.step_commit_cases f room
  · exact Or.inr ⟨rfl, hd⟩
  · omega
  · exact Or.inr ⟨rfl, hd⟩
  · rw [hactor]
    exact Or.inl rfl

theorem of_rollback (h : actor.OffInside) (f : Faults) (room : Option ℕ) :
    (actor.step ⟨.rollback, f, room⟩).OffInside ∧
      actor.KeepsPrivate .rollback (actor.step ⟨.rollback, f, room⟩) := by
  have hrun := Prod.eta (handleRollback E f ⟨actor, ⟨none, []⟩⟩)
  refine ⟨(TransactionCall.rollback.handler_depth hrun.symm h).1, fun hopen ↦ Or.inl ?_⟩
  obtain hactor | ⟨-, hactor | hactor⟩ | ⟨-, conn, hundo, hactor⟩ :=
    actor.step_rollback_cases f room
  · rw [hactor]
  · rw [hactor]
    exact Store.committed_rollback _
  · rw [hactor]
    exact Store.committed_rollback_setAutocommit
  · rw [hactor]
    exact (Store.of_rollbackTo hundo).2

theorem of_startRollback (h : actor.OffInside) (hf : f.CallsSucceed) (room : Option ℕ) :
    (actor.step ⟨.startRollback, f, room⟩).OffInside ∧
      actor.KeepsPrivate .startRollback (actor.step ⟨.startRollback, f, room⟩) := by
  have hstep := actor.step_startRollback f room
  rcases hd : actor.transactionDepth with _ | _ | d
  · simp only [hd] at hstep
    rw [hstep]
    exact ⟨h, fun _ ↦ Or.inl rfl⟩
  · simp only [hd, droppedOutermost_of_callsSucceed hf] at hstep
    rw [hstep]
    refine ⟨?_, fun _ ↦ Or.inl Store.committed_rollback_setAutocommit⟩
    simp [OffInside]
  · simp only [hd] at hstep
    have hopen : actor.conn.autocommit = false := h.2 (by omega)
    rw [hstep]
    obtain hundo | hkept := droppedNested_cases f (savepointName (d + 1)) actor.conn
    · obtain ⟨hauto, hcommitted⟩ := Store.of_rollbackTo hundo
      exact ⟨iff_of_true hauto (by simp), fun _ ↦ Or.inl hcommitted⟩
    · rw [hkept]
      exact ⟨iff_of_true hopen (by simp), fun _ ↦ Or.inl rfl⟩

/-- What a migration does to an actor, by whether it has a transaction of its own. -/
theorem of_runMigration (h : actor.OffInside) (hf : f.CallsSucceed) (texts : MigrationTexts)
    {sql trackingSql : String} {noTx : Bool} (command : Command A)
    (htracking : ∀ contents,
      ∃ cursor, (E.exec trackingSql [] contents).1.executed.1 = .ok cursor) :
    let actor' := (runMigration E f texts sql trackingSql noTx ⟨actor, ⟨none, []⟩⟩).2.actor
    actor'.OffInside ∧ actor.KeepsPrivate command actor' ↔
      ((!noTx) = true → actor.transactionDepth = 0) := by
  have hrun := Prod.mk.eta (p := runMigration E f texts sql trackingSql noTx ⟨actor, ⟨none, []⟩⟩)
  have hdepth : (runMigration E f texts sql trackingSql noTx
      ⟨actor, ⟨none, []⟩⟩).2.actor.transactionDepth = actor.transactionDepth :=
    (framed_depth actor.transactionDepth).runMigration texts sql trackingSql noTx _ rfl
  cases noTx with
  | true =>
    obtain ⟨g, hg⟩ := written_runMigration hrun.symm
    exact iff_of_true (of_write h hg hdepth) (by simp)
  | false =>
    have hauto := autocommit_runMigration hf htracking hrun.symm
    constructor
    · rintro ⟨hoff, -⟩ -
      by_contra hd
      rw [OffInside, hauto, hdepth] at hoff
      exact absurd (hoff.2 (by omega)) (by simp)
    · intro hzero
      have hzero := hzero rfl
      refine ⟨?_, fun hopen ↦ by omega⟩
      rw [OffInside, hauto, hdepth, hzero]
      simp

/-- **One command.**  It keeps autocommit off exactly inside a transaction, and the open transaction
private, if and only if it is not a migration that is to have a transaction of its own inside the
caller's. -/
theorem step_offInside_iff (h : actor.OffInside) (hkeyed : CacheKeyed actor.stmtCache)
    (job : Job A) (hf : job.faults.CallsSucceed)
    (htracking : ∀ trackingSql, job.command.trackingSql = some trackingSql → ∀ contents,
      ∃ cursor, (E.exec trackingSql [] contents).1.executed.1 = .ok cursor) :
    (actor.step job).OffInside ∧ actor.KeepsPrivate job.command (actor.step job) ↔
      (job.command.ownsTransaction = true → actor.transactionDepth = 0) := by
  obtain ⟨command, f, room⟩ := job
  by_cases hmig : command.isMigration = true
  · cases command with
    | applyMigration sql insertSql version noTx =>
      exact of_runMigration h hf (applyTexts version) _ (htracking insertSql rfl)
    | revertMigration sql deleteSql version noTx =>
      exact of_runMigration h hf (revertTexts version) _ (htracking deleteSql rfl)
    | _ => cases hmig
  have hmig : command.isMigration = false := by simpa using hmig
  have howns : command.ownsTransaction ≠ true := by
    cases command with
    | applyMigration sql insertSql version noTx => cases hmig
    | revertMigration sql deleteSql version noTx => cases hmig
    | _ => exact Bool.false_ne_true
  refine iff_of_true ?_ fun hcommand ↦ absurd hcommand howns
  by_cases htx : command.isTransaction = true
  · cases command with
    | begin => exact of_begin h f room
    | commit => exact of_commit h f room
    | rollback => exact of_rollback h f room
    | startRollback => exact of_startRollback h hf room
    | _ => cases htx
  · obtain hwritten | ⟨hwritten, -⟩ :=
      step_written hkeyed ⟨command, f, room⟩ (by simpa using htx) hmig
    · exact of_write h hwritten.conn hwritten.depth
    · exact of_write h hwritten.conn hwritten.depth

end ConnectionActor

/-- **When autocommit follows the depth.**  Along every run of the actor in which the calls that
switch the transaction mode, the savepoint statements and the tracking statements succeed: after
every command autocommit is off exactly inside a transaction, and what an open transaction wrote is
published by nothing but the commit of its outermost level, if and only if no migration with a
transaction of its own is run inside a transaction. -/
theorem autocommit_iff (E : Env C κ A V) (contents : C) (statementCacheCapacity : ℕ)
    (settings : MssqlBufferSettings) (jobs : List (Job A))
    (hf : ∀ job ∈ jobs, job.faults.CallsSucceed)
    (htracking : ∀ job ∈ jobs, ∀ trackingSql, job.command.trackingSql = some trackingSql →
      ∀ contents, ∃ cursor, (E.exec trackingSql [] contents).1.executed.1 = .ok cursor) :
    Run.AllSteps ConnectionActor.step
        (fun actor job ↦ (actor.step job).OffInside ∧
          actor.KeepsPrivate job.command (actor.step job))
        (.connect E contents statementCacheCapacity settings) jobs ↔
      Run.AllSteps ConnectionActor.step
        (fun actor job ↦ job.command.ownsTransaction = true → actor.transactionDepth = 0)
        (.connect E contents statementCacheCapacity settings) jobs := by
  have hexact (actor : ConnectionActor E) (job : Job A) (hjob : job ∈ jobs)
      (h : actor.OffInside ∧ CacheKeyed actor.stmtCache) :=
    ConnectionActor.step_offInside_iff h.1 h.2 job (hf job hjob) (htracking job hjob)
  refine Run.allSteps_iff_guard (fun actor job hjob h hstep ↦ ?_) hexact
    ⟨ConnectionActor.offInside_connect _ _ _, CacheImpl.all_new _⟩
  exact ⟨hstep.1, ConnectionActor.step_cacheKeyed h.2 job⟩

/-- A migration outside every transaction, then a transaction with a statement. -/
theorem autocommit_quiet :
    Run.AllSteps ConnectionActor.step
      (fun actor job ↦ (actor.step job).OffInside ∧
        actor.KeepsPrivate job.command (actor.step job))
      (.connect Env.quiet [] 100 default)
      [⟨.applyMigration "migrate" "track" 1 false, .none, none⟩, ⟨.begin, .none, none⟩,
        ⟨.execSql "pending", .none, none⟩] :=
  (autocommit_iff Env.quiet [] 100 default _ (by simp [Faults.callsSucceed_none])
    (fun _ _ _ _ _ ↦ ⟨none, rfl⟩)).2 (by simp [Command.ownsTransaction]; rfl)

/-- A migration inside a transaction: it has published what the transaction wrote, and the actor
counts a level with autocommit on. -/
theorem migration_inside_transaction :
    let actor := ([.begin, .execSql "pending", .applyMigration "migrate" "track" 1 false].map
      fun command ↦ (⟨command, .none, none⟩ : Job ℤ)).foldl ConnectionActor.step
        (.connect Env.quiet [] 100 default)
    actor.transactionDepth = 1 ∧ actor.conn.autocommit = true ∧
      actor.conn.committed = ["pending", "migrate", "track"] := by
  let inside : ConnectionActor Env.quiet :=
    ([.begin, .execSql "pending"].map fun command ↦ (⟨command, .none, none⟩ : Job ℤ)).foldl
      ConnectionActor.step (.connect Env.quiet [] 100 default)
  have hbatch : migrationBatch Env.quiet .none (applyTexts 1) "migrate"
      (Session.started false ⟨inside, ⟨none, []⟩⟩) = (.ok (), _) :=
    migrationBatch_of_advances rfl ⟨none, _, rfl, rfl, List.forall_mem_nil _⟩
  have hstep : inside.step ⟨.applyMigration "migrate" "track" 1 false, .none, none⟩ =
      { inside with conn := ⟨["pending", "migrate", "track"], none⟩ } := by
    show (runMigration Env.quiet .none (applyTexts 1) "migrate" "track" false
      ⟨inside, ⟨none, []⟩⟩).2.actor = _
    rw [runMigration_started rfl (fun _ ↦ rfl), hbatch]
    rfl
  show (inside.step _).transactionDepth = 1 ∧ (inside.step _).conn.autocommit = true ∧
    (inside.step _).conn.committed = _
  rw [hstep]
  exact ⟨rfl, rfl, rfl⟩

end MssqlOdbc
