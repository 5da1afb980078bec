import Mathlib
import MssqlOdbc.Connection.Frames
import MssqlOdbc.Transaction.Handlers

/-!
# The actor implements nested transactions

The reference is `TxStore.Nested`: a stack of snapshots.  `Command.reference` says what each command
means there, and the theorem is that an actor whose ODBC calls all succeed computes the same
committed and working contents, whatever commands it is given.

The actor has only savepoints named after the nesting level, names it uses again and again without
ever releasing a savepoint.  That this does no harm is the invariant `TxStore.Live` behind
`TxStore.Refines`; here each handler is shown to perform the operation of a `Refines` client.
-/

set_option autoImplicit false

namespace MssqlOdbc

open TxStore

variable {C κ A V : Type} {E : Env C κ A V} {f : Faults}

/-- Two levels never share a savepoint name. -/
theorem savepointName_injective : Function.Injective savepointName := by
  intro m n h
  have hrepr : Nat.repr m = Nat.repr n := by
    simpa [savepointName, String.append_left_inj, String.append_right_inj] using h
  exact Nat.repr_injective hrepr

/-- What a command means for nested transactions. -/
def Command.reference (E : Env C κ A V) (command : Command A) : Nested C → Nested C :=
  match command with
  | .begin => Nested.enter
  | .commit => Nested.commit
  | .rollback | .startRollback => Nested.rollback
  | command => Nested.write (command.effect E)

theorem Command.reference_of_statement {command : Command A}
    (htx : command.isTransaction = false) :
    command.reference E = Nested.write (command.effect E) := by
  cases command with
  | begin => cases htx
  | commit => cases htx
  | rollback => cases htx
  | startRollback => cases htx
  | _ => rfl

namespace ConnectionActor

/-- The connection and the depth of the actor implement the nested transactions `nested`. -/
def Implements (actor : ConnectionActor E) (nested : Nested C) : Prop :=
  Refines savepointName actor.conn actor.transactionDepth nested

variable {actor : ConnectionActor E} {nested : Nested C}

theorem implements_connect (contents : C) (statementCacheCapacity : ℕ)
    (settings : MssqlBufferSettings) :
    (connect E contents statementCacheCapacity settings).Implements ⟨contents, contents, []⟩ :=
  .idle contents

/-! ## One command -/

section Handlers

variable {s s' : Session E} {r : Except Error Unit}

/-- A begin succeeds and enters a level. -/
theorem implements_begin (hf : f.CallsSucceed) (h : s.actor.Implements nested)
    (hrun : handleBegin E f s = (r, s')) : r = .ok () ∧ s'.actor.Implements nested.enter ∧
      s'.actor.transactionDepth = s.actor.transactionDepth + 1 := by
  rcases hd : s.actor.transactionDepth with _ | d
  · rw [Implements, hd] at h
    obtain ⟨e, -, -, hwhy⟩ | ⟨rfl, -, hactor⟩ | ⟨-, hne, -⟩ := handleBegin_cases hrun
    · exact absurd hd (hwhy hf).1
    · rw [Implements, hactor]
      exact ⟨rfl, h.enter_outermost, rfl⟩
    · exact absurd hd hne
  · rw [Implements, hd] at h
    obtain ⟨conn, hsave, hrefines⟩ := h.enter
    obtain ⟨e, -, -, hwhy⟩ | ⟨-, hzero, -⟩ | ⟨rfl, -, conn', hconn, hactor⟩ :=
      handleBegin_cases hrun
    · have hrefused := (hwhy hf).2
      rw [hd, hsave] at hrefused
      cases hrefused
    · omega
    · rw [hd, hsave] at hconn
      cases hconn
      rw [Implements, hactor, hd]
      exact ⟨rfl, hrefines, rfl⟩

/-- A commit succeeds and leaves a level, if there is one. -/
theorem implements_commit (hf : f.CallsSucceed) (h : s.actor.Implements nested)
    (hrun : handleCommit E f s = (r, s')) : r = .ok () ∧ s'.actor.Implements nested.commit ∧
      s'.actor.transactionDepth = s.actor.transactionDepth - 1 := by
  obtain ⟨e, -, -, hfails, -⟩ | ⟨rfl, hd, hactor⟩ | ⟨rfl, hd, hactor⟩ | ⟨rfl, hd, hactor⟩ :=
    handleCommit_cases hrun
  · exact absurd hf hfails
  · rw [Implements, hd] at h
    rw [Implements, hactor, hd, h.idle_eq.1]
    exact ⟨rfl, h, rfl⟩
  · rw [Implements, hd] at h
    rw [Implements, hactor, hd]
    exact ⟨rfl, h.leave_outermost, rfl⟩
  · obtain ⟨d, hd⟩ : ∃ d, s.actor.transactionDepth = d + 2 :=
      Nat.exists_eq_add_of_le' hd
    rw [Implements, hd] at h
    rw [Implements, hactor, hd]
    exact ⟨rfl, h.leave, rfl⟩

/-- Undoing a level, as a rollback and the rollback of a dropped transaction do it. -/
theorem implements_undo (h : s.actor.Implements nested)
    (hundo : s'.actor = match s.actor.transactionDepth with
      | 0 => s.actor
      | 1 => { s.actor with
          conn := s.actor.conn.rollback.setAutocommit true, transactionDepth := 0 }
      | d + 2 => { s.actor with
          conn := (s.actor.conn.rollbackTo (savepointName (d + 1))).getD s.actor.conn,
          transactionDepth := d + 1 }) :
    s'.actor.Implements nested.rollback ∧
      s'.actor.transactionDepth = s.actor.transactionDepth - 1 := by
  rcases hd : s.actor.transactionDepth with _ | _ | d
  · rw [Implements, hd] at h
    rw [hd] at hundo
    rw [Implements, hundo, hd, h.idle_eq.2]
    exact ⟨h, rfl⟩
  · rw [Implements, hd] at h
    rw [hd] at hundo
    rw [Implements, hundo]
    exact ⟨h.undo_outermost, rfl⟩
  · rw [Implements, hd] at h
    obtain ⟨conn, hundone, hrefines⟩ := h.undo savepointName_injective
    rw [hd] at hundo
    simp only [hundone, Option.getD_some] at hundo
    rw [Implements, hundo]
    exact ⟨hrefines, rfl⟩

theorem implements_rollback (hf : f.CallsSucceed) (h : s.actor.Implements nested)
    (hrun : handleRollback E f s = (r, s')) : r = .ok () ∧ s'.actor.Implements nested.rollback ∧
      s'.actor.transactionDepth = s.actor.transactionDepth - 1 := by
  obtain ⟨e, -, -, hwhy⟩ | ⟨rfl, hd, hactor⟩ | ⟨rfl, hd, hactor⟩ | ⟨rfl, hd, conn, hconn, hactor⟩ :=
    handleRollback_cases hrun
  · obtain ⟨hd, hrefused⟩ := hwhy hf
    obtain ⟨d, hd⟩ : ∃ d, s.actor.transactionDepth = d + 2 :=
      Nat.exists_eq_add_of_le' hd
    rw [Implements, hd] at h
    obtain ⟨conn', hundone, -⟩ := h.undo savepointName_injective
    rw [hd, show d + 2 - 1 = d + 1 from rfl, hundone] at hrefused
    cases hrefused
  · exact ⟨rfl, implements_undo h (by rw [hactor, hd])⟩
  · exact ⟨rfl, implements_undo h (by rw [hactor, hd])⟩
  · obtain ⟨d, hd⟩ : ∃ d, s.actor.transactionDepth = d + 2 :=
      Nat.exists_eq_add_of_le' hd
    rw [hd, show d + 2 - 1 = d + 1 from rfl] at hconn hactor
    exact ⟨rfl, implements_undo h (by simp only [hactor, hd, hconn, Option.getD_some])⟩

theorem implements_startRollback (hf : f.CallsSucceed) (h : s.actor.Implements nested) :
    (handleStartRollback E f s).2.actor.Implements nested.rollback ∧
      (handleStartRollback E f s).2.actor.transactionDepth = s.actor.transactionDepth - 1 := by
  refine implements_undo h ?_
  rw [handleStartRollback_snd]
  rcases s.actor.transactionDepth with _ | _ | d
  · rfl
  · simp only [droppedOutermost_of_callsSucceed hf]
  · simp only [droppedNested_of_calls hf.lock hf.transactionSql]

end Handlers

/-- **One command.**  Whatever the actor does for a command other than a migration, it does what
the command means for nested transactions. -/
theorem implements_step {job : Job A} (h : actor.Implements nested)
    (hkeyed : CacheKeyed actor.stmtCache) (hmig : job.command.isMigration = false)
    (hf : job.faults = .none)
    (hprepare : ∀ sql contents, ∃ info, E.prepare sql contents = .ok info) :
    (actor.step job).Implements (job.command.reference E nested) := by
  obtain ⟨command, f, room⟩ := job
  obtain rfl : f = .none := hf
  by_cases htx : command.isTransaction = true
  · cases command with
    | begin =>
      have hrun := Prod.mk.eta (p := handleBegin E .none ⟨actor, ⟨none, []⟩⟩)
      exact (implements_begin Faults.callsSucceed_none h hrun.symm).2.1
    | commit =>
      have hrun := Prod.mk.eta (p := handleCommit E .none ⟨actor, ⟨none, []⟩⟩)
      exact (implements_commit Faults.callsSucceed_none h hrun.symm).2.1
    | rollback =>
      have hrun := Prod.mk.eta (p := handleRollback E .none ⟨actor, ⟨none, []⟩⟩)
      exact (implements_rollback Faults.callsSucceed_none h hrun.symm).2.1
    | startRollback => exact (implements_startRollback Faults.callsSucceed_none h).1
    | _ => cases htx
  · have htx' : command.isTransaction = false := by simpa using htx
    obtain hwritten | ⟨-, hl | hp | ⟨sql, e, he⟩⟩ :=
      step_written hkeyed ⟨command, .none, room⟩ htx' hmig
    · rw [Implements, hwritten.conn, hwritten.depth, Command.reference_of_statement htx']
      exact h.write _
    · cases hl
    · exact absurd rfl hp
    · obtain ⟨info, hinfo⟩ := hprepare sql actor.conn.working
      rw [hinfo] at he
      cases he

/-- The relation holds along the whole run. -/
theorem implements_run {jobs : List (Job A)} (h : actor.Implements nested)
    (hkeyed : CacheKeyed actor.stmtCache) (hmig : ∀ job ∈ jobs, job.command.isMigration = false)
    (hf : ∀ job ∈ jobs, job.faults = .none)
    (hprepare : ∀ sql contents, ∃ info, E.prepare sql contents = .ok info) :
    (jobs.foldl step actor).Implements
      (jobs.foldl (fun nested job ↦ job.command.reference E nested) nested) := by
  have hstep (job : Job A) (hjob : job ∈ jobs) (actor : ConnectionActor E) (nested : Nested C)
      (h : actor.Implements nested ∧ CacheKeyed actor.stmtCache) :
      (actor.step job).Implements (job.command.reference E nested) ∧
        CacheKeyed (actor.step job).stmtCache := by
    constructor
    · exact implements_step h.1 h.2 (hmig job hjob) (hf job hjob) hprepare
    · exact step_cacheKeyed h.2 job
  exact (List.foldl_rel (r := fun (actor : ConnectionActor E) nested ↦
    actor.Implements nested ∧ CacheKeyed actor.stmtCache) ⟨h, hkeyed⟩ hstep).1

end ConnectionActor

/-- **Nested transactions.**  With every call succeeding, an actor that starts on a fresh connection
computes, command after command, the committed and the working contents of the reference. -/
theorem nested_transactions (E : Env C κ A V) (contents : C) (statementCacheCapacity : ℕ)
    (settings : MssqlBufferSettings) (jobs : List (Job A))
    (hf : ∀ job ∈ jobs, job.faults = .none)
    (hprepare : ∀ sql contents, ∃ info, E.prepare sql contents = .ok info)
    (hmig : ∀ job ∈ jobs, job.command.isMigration = false) :
    let actor := jobs.foldl ConnectionActor.step
      (ConnectionActor.connect E contents statementCacheCapacity settings)
    let nested := jobs.foldl (fun nested job ↦ job.command.reference E nested)
      ⟨contents, contents, []⟩
    actor.conn.committed = nested.committed ∧ actor.conn.working = nested.working := by
  intro actor nested
  have himplements : actor.Implements nested :=
    ConnectionActor.implements_run
      (ConnectionActor.implements_connect contents statementCacheCapacity settings)
      (CacheImpl.all_new _) hmig hf hprepare
  exact ⟨himplements.committed_eq, himplements.working_eq⟩

/-- A nested transaction is rolled back and the outer one committed: what the outer one wrote before
is published, what the nested one wrote is not. -/
theorem nested_transactions_quiet :
    let commands : List (Command ℤ) :=
      [.begin, .execSql "outer", .begin, .execSql "nested", .rollback, .commit]
    ((commands.map fun command ↦ ⟨command, .none, none⟩).foldl ConnectionActor.step
      (ConnectionActor.connect Env.quiet [] 100 default)).conn.committed = ["outer"] :=
  (nested_transactions Env.quiet [] 100 default _ (by simp) (fun _ _ ↦ ⟨_, rfl⟩)
    (by simp [Command.isMigration])).1

end MssqlOdbc
