import MssqlOdbc.Connection.Frames
import MssqlOdbc.Lib.Run
import MssqlOdbc.Transaction.Nested

/-!
# Dropped transactions

The rollback of a dropped transaction cannot report an error: `handleStartRollback` takes the depth
down whether or not the calls behind it succeed.  What it leaves is honest if the depth still tells
the truth: at depth zero the connection commits every statement on its own, and above it the writes
of the dropped level are gone for good.

`dropped_honest_iff` says exactly when.  "Gone for good" is about every later run: it publishes what
it would publish if the pending contents were those the level started from, `levelStart`.  That this
is what the level started from is `levelStart_of_begin`.
-/

set_option autoImplicit false

namespace MssqlOdbc

open TxStore

variable {C κ A V : Type} {E : Env C κ A V} {f : Faults}

namespace ConnectionActor

variable {actor : ConnectionActor E}

/-- What the innermost nested level works on top of: the contents of its savepoint, or, when the
transaction was started anew inside the level, the contents that transaction started from. -/
def levelStart (actor : ConnectionActor E) : C :=
  actor.conn.startOf (savepointName (actor.transactionDepth - 1))

/-- The actor with other contents pending. -/
def withWorking (start : C) (actor : ConnectionActor E) : ConnectionActor E :=
  { actor with conn := actor.conn.withWorking start }

/-- The depth tells the truth.  At depth zero autocommit is on with nothing pending, and after a
statement nothing is pending either; above it no later commands publish what was pending on top of
`start`. -/
def Honest (start : C) (actor : ConnectionActor E) : Prop :=
  if actor.transactionDepth = 0 then
    actor.conn.autocommit = true ∧ actor.conn.working = actor.conn.committed ∧
      ∀ job : Job A, job.command.isTransaction = false → job.command.isMigration = false →
        (actor.step job).conn.working = (actor.step job).conn.committed
  else ∀ later : List (Job A),
    (actor.run later).1.conn.committed = ((actor.withWorking start).run later).1.conn.committed

/-- The calls that matter succeed, or there is nothing for them to do. -/
def Undoes (f : Faults) (actor : ConnectionActor E) : Prop :=
  if actor.transactionDepth = 1 then
    f.lock = false ∧ f.setAutocommit true = none ∨ actor.conn.autocommit = true
  else
    f.lock = false ∧ f.transactionSql = none ∧
        (actor.conn.savepoint (savepointName (actor.transactionDepth - 1))).isSome = true ∨
      actor.conn.working = actor.levelStart

/-! ## Depth zero -/

/-- In autocommit mode statements leave nothing pending. -/
theorem honest_idle_iff (hkeyed : CacheKeyed actor.stmtCache) (hd : actor.transactionDepth = 0)
    (start : C) : actor.Honest start ↔ actor.conn.autocommit = true := by
  rw [Honest, if_pos hd]
  constructor
  · intro h
    exact h.1
  · intro hauto
    refine ⟨hauto, Store.working_of_autocommit hauto, fun job htx hmig ↦ ?_⟩
    obtain ⟨g, hwritten⟩ : ∃ g, Written g actor (actor.step job) := by
      obtain hwritten | ⟨hwritten, -⟩ := step_written hkeyed job htx hmig
      · exact ⟨_, hwritten⟩
      · exact ⟨_, hwritten⟩
    apply Store.working_of_autocommit
    rw [hwritten.conn, Store.autocommit_write]
    exact hauto

/-- Of the three calls only switching autocommit back on decides: it ends the transaction, with a
commit if the rollback failed. -/
theorem autocommit_droppedOutermost (f : Faults) (conn : Connection C) :
    (droppedOutermost f conn).autocommit = true ↔
      f.lock = false ∧ f.setAutocommit true = none ∨ conn.autocommit = true := by
  rw [droppedOutermost]
  cases hl : f.lock with
  | true => simp
  | false =>
    have hundone : (ignored f.rollback Store.rollback conn).autocommit = conn.autocommit := by
      cases f.rollback with
      | none => exact Store.autocommit_rollback conn
      | some e => rfl
    cases hauto : f.setAutocommit true with
    | none => simp [ignored]
    | some e =>
      show (ignored f.rollback Store.rollback conn).autocommit = true ↔ _
      simp [hundone]

/-! ## Above -/

/-- Committing every open level publishes what is pending. -/
theorem committed_commits {d : ℕ} (hd : actor.transactionDepth = d + 1) :
    ((List.replicate (d + 1) (⟨.commit, .none, none⟩ : Job A)).foldl step actor).conn.committed =
      actor.conn.working := by
  induction d generalizing actor with
  | zero =>
    obtain ⟨-, hfails, -⟩ | ⟨h0, -⟩ | ⟨-, hactor⟩ | ⟨h2, -⟩ :=
      actor.step_commit_cases .none none
    · exact absurd Faults.callsSucceed_none hfails
    · omega
    · show (actor.step ⟨.commit, .none, none⟩).conn.committed = _
      rw [hactor, Store.committed_commit_setAutocommit]
    · omega
  | succ d ih =>
    obtain ⟨h1, -⟩ | ⟨h0, -⟩ | ⟨h1, -⟩ | ⟨-, hactor⟩ := actor.step_commit_cases .none none
    · omega
    · omega
    · omega
    · rw [List.replicate_succ, List.foldl_cons, hactor, ih (by simp [hd])]

/-- Above depth zero the depth is honest only if nothing is pending on top of the start. -/
theorem honest_inside_iff (hd : 1 ≤ actor.transactionDepth) (start : C) :
    actor.Honest start ↔ actor.conn.autocommit = true ∨ actor.conn.working = start := by
  rw [Honest, if_neg (by omega)]
  constructor
  · intro h
    cases hauto : actor.conn.autocommit with
    | true => exact Or.inl rfl
    | false =>
      right
      obtain ⟨d, hd⟩ : ∃ d, actor.transactionDepth = d + 1 := Nat.exists_eq_add_of_le' hd
      have hd' : (actor.withWorking start).transactionDepth = d + 1 := hd
      have hlater := h (List.replicate (d + 1) ⟨.commit, .none, none⟩)
      rw [run_fst, run_fst, List.takeWhile_eq_self_iff.2
        (by simp [Command.isShutdown]), committed_commits hd, committed_commits hd'] at hlater
      rw [hlater, withWorking, Store.working_withWorking hauto]
  · rintro (hauto | hworking) later
    · have hsame : actor.withWorking start = actor := by
        rw [withWorking, Store.withWorking_of_autocommit hauto]
      rw [hsame]
    · have hsame : actor.withWorking start = actor := by
        rw [withWorking, Store.withWorking_of_working hworking]
      rw [hsame]

/-- The rollback to the savepoint is carried out, or there was nothing to roll back. -/
theorem undone_droppedNested_iff (f : Faults) (savepoint : String) (conn : Connection C) :
    ((droppedNested f savepoint conn).autocommit = true ∨
        (droppedNested f savepoint conn).working = conn.startOf savepoint) ↔
      f.lock = false ∧ f.transactionSql = none ∧ (conn.savepoint savepoint).isSome = true ∨
        conn.working = conn.startOf savepoint := by
  have hkept : (conn.autocommit = true ∨ conn.working = conn.startOf savepoint) ↔
      conn.working = conn.startOf savepoint :=
    or_iff_right_of_imp fun hauto ↦ (Store.startOf_of_autocommit hauto).symm
  rw [← and_assoc]
  by_cases hcalls : f.lock = false ∧ f.transactionSql = none
  · rw [droppedNested_of_calls hcalls.1 hcalls.2]
    cases hundo : conn.rollbackTo savepoint with
    | none =>
      rw [Option.getD_none, hkept, Store.rollbackTo_eq_none_iff.1 hundo]
      simp
    | some conn' =>
      have hsaved : (conn.savepoint savepoint).isSome = true := by
        rw [← Store.rollbackTo_working, hundo]
        rfl
      rw [Option.getD_some]
      exact iff_of_true (Or.inr (Store.working_of_rollbackTo hundo)) (Or.inl ⟨hcalls, hsaved⟩)
  · rw [droppedNested_of_fault hcalls, hkept]
    exact (or_iff_right fun h ↦ hcalls h.1).symm

/-! ## The drop -/

/-- **One drop.**  With a level open, what the drop leaves is honest if and only if the calls that
matter succeed or have nothing to do. -/
theorem step_startRollback_honest_iff (hkeyed : CacheKeyed actor.stmtCache)
    (hd : 1 ≤ actor.transactionDepth) (f : Faults) (room : Option ℕ) :
    (actor.step ⟨.startRollback, f, room⟩).Honest actor.levelStart ↔ actor.Undoes f := by
  have hkeyed' := step_cacheKeyed hkeyed ⟨.startRollback, f, room⟩
  have hstep := actor.step_startRollback f room
  rcases hdepth : actor.transactionDepth with _ | _ | d
  · omega
  · simp only [hdepth] at hstep
    rw [honest_idle_iff hkeyed' (by rw [hstep]), hstep, autocommit_droppedOutermost, Undoes,
      if_pos hdepth]
  · simp only [hdepth] at hstep
    have hname : d + 1 + 1 - 1 = d + 1 := rfl
    rw [honest_inside_iff (by rw [hstep]; simp), hstep, levelStart, hdepth, hname,
      undone_droppedNested_iff, Undoes, if_neg (by omega), levelStart, hdepth, hname]

/-! ## What a level starts from -/

/-- The level entered at depth `d + 1` on top of `start` is still open. -/
def Within (d : ℕ) (start : C) (actor : ConnectionActor E) : Prop :=
  ∃ deeper : List C, actor.transactionDepth = d + 2 + deeper.length ∧
    Above (fun i ↦ savepointName (d + i)) (deeper ++ [start]) actor.conn

theorem savepointName_shift_injective (d : ℕ) :
    Function.Injective fun i ↦ savepointName (d + i) :=
  savepointName_injective.comp (add_right_injective d)

/-- The savepoint a deeper level is entered with. -/
theorem savepointName_deeper (d : ℕ) (deeper : List C) (start : C) :
    savepointName (d + 2 + deeper.length) =
      savepointName (d + ((deeper ++ [start]).length + 1)) := by
  rw [List.length_append, List.length_singleton]
  congr 1
  omega

namespace Within

variable {d : ℕ} {start : C} {actor' : ConnectionActor E}

/-- Entering a deeper level. -/
theorem enter (h : actor.Within d start)
    (hsave : actor.conn.save (savepointName actor.transactionDepth) = some actor'.conn)
    (hdepth' : actor'.transactionDepth = actor.transactionDepth + 1) :
    actor'.Within d start := by
  obtain ⟨deeper, hdepth, habove⟩ := h
  rw [hdepth, savepointName_deeper d deeper start] at hsave
  refine ⟨actor.conn.working :: deeper, ?_, habove.save hsave⟩
  rw [hdepth', hdepth, List.length_cons]
  omega

/-- Leaving a deeper level, undone or not. -/
theorem leave (h : actor.Within d start)
    (hconn : actor.conn.rollbackTo (savepointName (actor.transactionDepth - 1)) = some actor'.conn ∨
      actor'.conn = actor.conn)
    (hdepth' : actor'.transactionDepth = actor.transactionDepth - 1)
    (hopen : d + 1 < actor'.transactionDepth) : actor'.Within d start := by
  obtain ⟨deeper, hdepth, habove⟩ := h
  cases deeper with
  | nil =>
    rw [hdepth', hdepth, List.length_nil] at hopen
    omega
  | cons c deeper =>
    have hlength : actor.transactionDepth - 1 = d + 2 + deeper.length := by
      rw [hdepth, List.length_cons]
      omega
    refine ⟨deeper, hdepth'.trans hlength, ?_⟩
    rcases hconn with hundo | hsame
    · rw [hlength, savepointName_deeper d deeper start] at hundo
      exact habove.rollbackTo (savepointName_shift_injective d) hundo
    · rw [hsame]
      exact habove.pop

/-- A statement. -/
theorem write (h : actor.Within d start) {g : C → C} (hwritten : Written g actor actor') :
    actor'.Within d start := by
  obtain ⟨deeper, hdepth, habove⟩ := h
  refine ⟨deeper, hwritten.depth.trans hdepth, ?_⟩
  rw [hwritten.conn]
  exact habove.write g

theorem two_le_depth (h : actor.Within d start) : d + 2 ≤ actor.transactionDepth := by
  obtain ⟨deeper, hdepth, -⟩ := h
  omega

/-- When the level is the innermost one, its savepoint holds what it started from. -/
theorem levelStart_eq (h : actor.Within d start) (hd : actor.transactionDepth = d + 2) :
    actor.levelStart = start := by
  obtain ⟨deeper, hdepth, habove⟩ := h
  obtain rfl : deeper = [] := List.length_eq_zero_iff.mp (by omega)
  rw [levelStart, hd]
  exact habove.startOf (savepointName_shift_injective d)

end Within

theorem within_begin {d : ℕ} (hd : actor.transactionDepth = d + 1) (f : Faults) (room : Option ℕ)
    (hbegun : (actor.step ⟨.begin, f, room⟩).transactionDepth = d + 2) :
    (actor.step ⟨.begin, f, room⟩).Within d actor.conn.working := by
  obtain hactor | ⟨h0, -⟩ | ⟨-, conn, hsave, hactor⟩ := actor.step_begin_cases f room
  · rw [hactor, hd] at hbegun
    omega
  · omega
  · rw [hactor]
    rw [hd] at hsave
    exact ⟨[], by simp [hd], (Above.of_open (Store.autocommit_of_save hsave)).save hsave⟩

/-- As long as the level is open its savepoint stays where it is, whatever fails. -/
theorem within_step {d : ℕ} {start : C} (h : actor.Within d start)
    (hkeyed : CacheKeyed actor.stmtCache) {job : Job A} (hmig : job.command.isMigration = false)
    (hopen : d + 1 < (actor.step job).transactionDepth) : (actor.step job).Within d start := by
  have hdepth := h.two_le_depth
  obtain ⟨command, f, room⟩ := job
  by_cases htx : command.isTransaction = true
  · cases command with
    | begin =>
      obtain hactor | ⟨h0, -⟩ | ⟨-, conn, hsave, hactor⟩ := actor.step_begin_cases f room
      · rwa [hactor]
      · omega
      · exact h.enter (by rw [hactor]; exact hsave) (by rw [hactor])
    | commit =>
      obtain ⟨h1, -⟩ | ⟨h0, -⟩ | ⟨h1, -⟩ | ⟨-, hactor⟩ := actor.step_commit_cases f room
      · omega
      · omega
      · omega
      · exact h.leave (Or.inr (by rw [hactor])) (by rw [hactor]) hopen
    | rollback =>
      obtain hactor | ⟨h1, -⟩ | ⟨-, conn, hundo, hactor⟩ := actor.step_rollback_cases f room
      · rwa [hactor]
      · omega
      · exact h.leave (Or.inl (by rw [hactor]; exact hundo)) (by rw [hactor]) hopen
    | startRollback =>
      obtain ⟨depth, hd⟩ : ∃ depth, actor.transactionDepth = depth + 2 :=
        Nat.exists_eq_add_of_le' (by omega)
      have hstep := actor.step_startRollback f room
      simp only [hd] at hstep
      refine h.leave ?_ (by rw [hstep, hd]; rfl) hopen
      rw [hstep, hd]
      exact droppedNested_cases f (savepointName (depth + 1)) actor.conn
    | _ => cases htx
  · obtain hwritten | ⟨hwritten, -⟩ :=
      step_written hkeyed ⟨command, f, room⟩ (by simpa using htx) hmig
    · exact h.write hwritten
    · exact h.write hwritten

/-- The level stays open along a run that stays inside it. -/
theorem within_run {d : ℕ} {start : C} {jobs : List (Job A)} (h : actor.Within d start)
    (hkeyed : CacheKeyed actor.stmtCache) (hmig : ∀ job ∈ jobs, job.command.isMigration = false)
    (hopen : Run.AllSteps step (fun actor job ↦ d + 1 < (actor.step job).transactionDepth)
      actor jobs) : (jobs.foldl step actor).Within d start := by
  induction jobs generalizing actor with
  | nil => exact h
  | cons job jobs ih =>
    obtain ⟨hjob, hjobs⟩ := List.forall_mem_cons.1 hmig
    obtain ⟨hnext, hrest⟩ := hopen
    exact ih (within_step h hkeyed hjob hnext) (step_cacheKeyed hkeyed job) hjobs hrest

/-- **What a level starts from.**  A nested level is entered, then come any commands but migrations
that stay inside it, with any failures: back at its depth, `levelStart` is what was pending when it
was entered. -/
theorem levelStart_of_begin (hkeyed : CacheKeyed actor.stmtCache) {d : ℕ}
    (hd : actor.transactionDepth = d + 1) (f : Faults) (room : Option ℕ)
    (hbegun : (actor.step ⟨.begin, f, room⟩).transactionDepth = d + 2) {jobs : List (Job A)}
    (hmig : ∀ job ∈ jobs, job.command.isMigration = false)
    (hopen : Run.AllSteps step (fun actor job ↦ d + 1 < (actor.step job).transactionDepth)
      (actor.step ⟨.begin, f, room⟩) jobs)
    (hlast : (jobs.foldl step (actor.step ⟨.begin, f, room⟩)).transactionDepth = d + 2) :
    (jobs.foldl step (actor.step ⟨.begin, f, room⟩)).levelStart = actor.conn.working := by
  have hbegin := within_begin hd f room hbegun
  have hkeyed' := step_cacheKeyed hkeyed ⟨.begin, f, room⟩
  exact (within_run hbegin hkeyed' hmig hopen).levelStart_eq hlast

end ConnectionActor

/-! ## Every drop of every run -/

/-- **When a drop is honest.**  In every state a run of the actor can reach with a level open, and
whatever fails in the drop: the depth it leaves tells the truth if and only if, at the outermost
level, autocommit is switched back on (or is on already), and above it the savepoint is restored
(or nothing is pending on top of it). -/
theorem dropped_honest_iff (E : Env C κ A V) (contents : C) (statementCacheCapacity : ℕ)
    (settings : MssqlBufferSettings) (jobs : List (Job A)) (f : Faults) (room : Option ℕ)
    (hdepth : 1 ≤ (jobs.foldl ConnectionActor.step
      (.connect E contents statementCacheCapacity settings)).transactionDepth) :
    let actor := jobs.foldl ConnectionActor.step
      (ConnectionActor.connect E contents statementCacheCapacity settings)
    (actor.step ⟨.startRollback, f, room⟩).Honest actor.levelStart ↔ actor.Undoes f := by
  intro actor
  have hkeyed : CacheKeyed actor.stmtCache :=
    ConnectionActor.run_cacheKeyed contents statementCacheCapacity settings jobs
  exact ConnectionActor.step_startRollback_honest_iff hkeyed hdepth f room

/-- A nested transaction in a transaction, both with a statement. -/
def nestedJobs : List (Job ℤ) :=
  [.begin, .execSql "outer", .begin, .execSql "nested"].map fun command ↦ ⟨command, .none, none⟩

/-- With no failure the nested statement can never be published. -/
theorem nested_drop_honest :
    ((nestedJobs.foldl ConnectionActor.step (.connect Env.quiet [] 100 default)).step
      ⟨.startRollback, .none, none⟩).Honest ["outer"] :=
  (dropped_honest_iff Env.quiet [] 100 default nestedJobs .none none (by decide)).2
    (Or.inl ⟨rfl, rfl, by decide⟩)

/-- The nested statement is published by the commit of the outer level when the rollback to the
savepoint failed; and a statement after the drop of the only level is pending when autocommit could
not be switched back on. -/
theorem dropped_not_honest :
    let lost : OdbcError := ⟨some ⟨"08S01", "communication link failure"⟩, "ODBC emitted an error"⟩
    let nested := nestedJobs.foldl ConnectionActor.step (.connect Env.quiet [] 100 default)
    let dropped := nested.step
      ⟨.startRollback, { Faults.none with transactionSql := some lost }, none⟩
    let begun : ConnectionActor Env.quiet := (ConnectionActor.connect Env.quiet [] 100 default).step
      ⟨.begin, .none, none⟩
    let idle := begun.step
      ⟨.startRollback, { Faults.none with setAutocommit := fun _ ↦ some lost }, none⟩
    (nested.transactionDepth = 2 ∧ ¬ dropped.Honest nested.levelStart ∧
      (dropped.run [⟨.commit, .none, none⟩]).1.conn.committed = ["outer", "nested"]) ∧
    (begun.transactionDepth = 1 ∧ ¬ idle.Honest begun.levelStart ∧ idle.transactionDepth = 0 ∧
      (idle.step ⟨.execSql "after", .none, none⟩).conn.committed = []) := by
  intro lost nested dropped begun idle
  refine ⟨⟨by decide, fun h ↦ ?_, by decide⟩, by decide, fun h ↦ ?_, by decide, by decide⟩
  · have hpublished := (ConnectionActor.honest_inside_iff (by decide) nested.levelStart).1 h
    revert hpublished
    decide
  · rw [ConnectionActor.Honest, if_pos (by decide)] at h
    exact absurd h.1 (by decide)

end MssqlOdbc
