import MssqlOdbc.Lib.Run
import MssqlOdbc.Transaction
import MssqlOdbc.Transaction.Nested

/-!
# The two depths

The handle and the actor count the open levels separately.  Calls that wait for their answer keep
the two in step even when the ODBC calls behind them fail (`calls_in_step`): a call that fails
changes neither, and one that succeeds changes both by one.

A dropped transaction does not wait.  The handle resets its depth to zero at once, while the actor
will take its own down by *one* when it gets to the command; so the two agree again only if no more
than one level was open.  `depths_agree_iff` makes this exact, for every order of calls, drops and
steps of the actor: `InStep` is the invariant, in which the commands in flight count for the levels
the actor has still to close.
-/

set_option autoImplicit false

namespace MssqlOdbc

open TxStore

variable {C κ A V : Type} {E : Env C κ A V}

/-! ## One call -/

/-- Autocommit is off exactly inside a transaction. -/
def ConnectionActor.OffInside (actor : ConnectionActor E) : Prop :=
  actor.conn.autocommit = false ↔ 1 ≤ actor.transactionDepth

theorem ConnectionActor.offInside_connect (contents : C) (statementCacheCapacity : ℕ)
    (settings : MssqlBufferSettings) :
    (connect E contents statementCacheCapacity settings).OffInside := by
  simp [OffInside, connect, Store.autocommit]

namespace TransactionCall

/-- The handler behind a call. -/
def handler (E : Env C κ A V) (f : Faults) : TransactionCall → Handler E Unit
  | begin => handleBegin E f
  | commit => handleCommit E f
  | rollback => handleRollback E f

/-- The depth a call leads to: one level more, or one level less unless there is none. -/
def depthAfter : TransactionCall → ℕ → ℕ
  | begin, depth => depth + 1
  | commit, depth | rollback, depth => depth - 1

variable {call : TransactionCall} {conn : MssqlConnection E} {f : Faults}

/-- At depth zero there is nothing to commit or to roll back, and the actor is not asked. -/
theorem run_idle (hcall : call ≠ begin) (hd : conn.transactionDepth = 0) :
    call.run conn f = (.ok (), conn) := by
  cases call with
  | begin => exact absurd rfl hcall
  | commit => rw [run, MssqlTransactionManager.commit, if_pos hd]
  | rollback => rw [run, MssqlTransactionManager.rollback, if_pos hd]

/-- Otherwise the actor runs the handler, behind the commands already in flight, and the handle's
depth follows if it succeeds. -/
theorem run_apply (hcall : call = begin ∨ conn.transactionDepth ≠ 0) :
    call.run conn f =
      match call.handler E f ⟨conn.drained.actor, ⟨none, []⟩⟩ with
      | (.ok (), s) => (.ok (), ⟨[], call.depthAfter conn.transactionDepth, s.actor⟩)
      | (.error e, s) => (.error e, ⟨[], conn.transactionDepth, s.actor⟩) := by
  cases call with
  | begin =>
    rw [run, MssqlTransactionManager.begin, handler, MssqlConnection.beginBlocking,
      MssqlConnection.sendCommandBlocking]
    simp only [ConnectionActor.process, ConnectionActor.runHandler]
    rcases handleBegin E f ⟨conn.drained.actor, ⟨none, []⟩⟩ with ⟨e | u, s⟩
    · rfl
    · rfl
  | commit =>
    have hd : conn.transactionDepth ≠ 0 := hcall.resolve_left (by simp)
    rw [run, MssqlTransactionManager.commit, if_neg hd, handler, MssqlConnection.commitBlocking,
      if_neg hd, MssqlConnection.sendCommandBlocking]
    simp only [ConnectionActor.process, ConnectionActor.runHandler]
    rcases handleCommit E f ⟨conn.drained.actor, ⟨none, []⟩⟩ with ⟨e | u, s⟩
    · rfl
    · by_cases h1 : conn.transactionDepth = 1
      · simp only [Response.result, h1, if_true]
        rfl
      · simp only [Response.result, h1, if_false]
        rfl
  | rollback =>
    have hd : conn.transactionDepth ≠ 0 := hcall.resolve_left (by simp)
    rw [run, MssqlTransactionManager.rollback, if_neg hd, handler, MssqlConnection.rollbackBlocking,
      if_neg hd, MssqlConnection.sendCommandBlocking]
    simp only [ConnectionActor.process, ConnectionActor.runHandler]
    rcases handleRollback E f ⟨conn.drained.actor, ⟨none, []⟩⟩ with ⟨e | u, s⟩
    · rfl
    · by_cases h1 : conn.transactionDepth = 1
      · simp only [Response.result, h1, if_true]
        rfl
      · simp only [Response.result, h1, if_false]
        rfl

/-- **A failing call leaves the depth, a succeeding one moves it by one**, and either way autocommit
is off exactly inside a transaction. -/
theorem handler_depth (call : TransactionCall) {s s' : Session E} {r : Except Error Unit}
    (hrun : call.handler E f s = (r, s')) (hauto : s.actor.OffInside) : s'.actor.OffInside ∧
      match r with
      | .ok () => s'.actor.transactionDepth = call.depthAfter s.actor.transactionDepth
      | .error _ => s'.actor.transactionDepth = s.actor.transactionDepth := by
  rw [ConnectionActor.OffInside] at hauto ⊢
  cases call with
  | begin =>
    obtain ⟨e, rfl, hactor, -⟩ | ⟨rfl, hd, hactor⟩ | ⟨rfl, hd, conn, hsave, hactor⟩ :=
      handleBegin_cases hrun
    · rw [hactor]
      exact ⟨hauto, rfl⟩
    · rw [hactor]
      simp [depthAfter, hd]
    · rw [hactor]
      simp [depthAfter, (Store.of_save hsave).1]
  | commit =>
    obtain ⟨e, rfl, hd, -, hactor | hactor⟩ | ⟨rfl, hd, hactor⟩ | ⟨rfl, hd, hactor⟩ |
      ⟨rfl, hd, hactor⟩ := handleCommit_cases hrun
    · rw [hactor]
      exact ⟨hauto, rfl⟩
    · rw [hactor]
      simpa using hauto
    · rw [hactor]
      exact ⟨hauto, by simp [depthAfter, hd]⟩
    · rw [hactor]
      simp [depthAfter, hd]
    · rw [hactor]
      have hopen : s.actor.conn.autocommit = false := hauto.2 (by omega)
      simp only [depthAfter, hopen, true_iff, and_true]
      omega
  | rollback =>
    obtain ⟨e, rfl, hactor | ⟨-, hactor⟩, -⟩ | ⟨rfl, hd, hactor⟩ | ⟨rfl, hd, hactor⟩ |
      ⟨rfl, hd, conn, hundo, hactor⟩ := handleRollback_cases hrun
    · rw [hactor]
      exact ⟨hauto, rfl⟩
    · rw [hactor]
      simpa using hauto
    · rw [hactor]
      exact ⟨hauto, by simp [depthAfter, hd]⟩
    · rw [hactor]
      simp [depthAfter, hd]
    · rw [hactor]
      simp only [depthAfter, (Store.of_rollbackTo hundo).1, true_iff, and_true]
      omega

end TransactionCall

/-- Nothing is in flight, both sides count the same levels, and autocommit is off exactly inside a
transaction. -/
structure MssqlConnection.Settled (conn : MssqlConnection E) : Prop where
  cmdTx : conn.cmdTx = []
  depth : conn.transactionDepth = conn.actor.transactionDepth
  offInside : conn.actor.OffInside

theorem MssqlConnection.settled_connectBlocking (contents : C) (statementCacheCapacity : ℕ)
    (settings : MssqlBufferSettings) :
    (connectBlocking E contents statementCacheCapacity settings).Settled :=
  ⟨rfl, rfl, ConnectionActor.offInside_connect _ _ _⟩

/-- What a call does to a settled connection. -/
theorem TransactionCall.run_settled {conn : MssqlConnection E} (h : conn.Settled)
    (call : TransactionCall) (f : Faults) :
    (call.run conn f).2.Settled ∧
      match (call.run conn f).1 with
      | .ok () => (call.run conn f).2.transactionDepth = call.depthAfter conn.transactionDepth
      | .error _ => (call.run conn f).2.transactionDepth = conn.transactionDepth := by
  by_cases hcall : call = begin ∨ conn.transactionDepth ≠ 0
  · have hdrained : conn.drained.actor = conn.actor := by
      rw [MssqlConnection.drained, h.cmdTx]
      rfl
    rw [run_apply hcall, hdrained]
    rcases hrun : call.handler E f ⟨conn.actor, ⟨none, []⟩⟩ with ⟨e | u, s⟩
    · obtain ⟨hauto, hdepth⟩ := call.handler_depth hrun h.offInside
      exact ⟨⟨rfl, h.depth.trans hdepth.symm, hauto⟩, rfl⟩
    · obtain ⟨hauto, hdepth⟩ := call.handler_depth hrun h.offInside
      refine ⟨⟨rfl, ?_, hauto⟩, rfl⟩
      rw [h.depth]
      exact hdepth.symm
  · obtain ⟨hbegin, hzero⟩ := not_or.mp hcall
    have hzero : conn.transactionDepth = 0 := not_not.mp hzero
    rw [run_idle hbegin hzero]
    refine ⟨h, ?_⟩
    cases call with
    | begin => exact absurd rfl hbegin
    | commit => simp [depthAfter, hzero]
    | rollback => simp [depthAfter, hzero]

/-- **Calls keep the two depths in step**, whichever ODBC calls fail: after every call of every
sequence the handle and the actor agree and autocommit is off exactly inside a transaction; a call
that fails has changed neither depth, and one that succeeds has changed both by one level. -/
theorem calls_in_step (E : Env C κ A V) (contents : C) (statementCacheCapacity : ℕ)
    (settings : MssqlBufferSettings) (calls : List (TransactionCall × Faults)) :
    Run.AllSteps (fun conn c ↦ (c.1.run conn c.2).2)
      (fun conn c ↦
        let (result, conn') := c.1.run conn c.2
        conn'.transactionDepth = conn'.actor.transactionDepth ∧
        (conn'.actor.conn.autocommit = false ↔ 1 ≤ conn'.transactionDepth) ∧
        match result with
        | .ok () => conn'.transactionDepth = c.1.depthAfter conn.transactionDepth ∧
            conn'.actor.transactionDepth = c.1.depthAfter conn.actor.transactionDepth
        | .error _ => conn'.transactionDepth = conn.transactionDepth ∧
            conn'.actor.transactionDepth = conn.actor.transactionDepth)
      (MssqlConnection.connectBlocking E contents statementCacheCapacity settings) calls := by
  refine Run.allSteps_of_inv ?_ (MssqlConnection.settled_connectBlocking _ _ _)
  intro conn c _ h
  obtain ⟨hsettled, hresult⟩ := c.1.run_settled h c.2
  simp only
  rcases hrun : c.1.run conn c.2 with ⟨r, conn'⟩
  rw [hrun] at hsettled hresult
  refine ⟨hsettled, hsettled.depth, by rw [hsettled.depth]; exact hsettled.offInside, ?_⟩
  cases r with
  | error e => exact ⟨hresult, by rw [← hsettled.depth, ← h.depth]; exact hresult⟩
  | ok u => exact ⟨hresult, by rw [← hsettled.depth, ← h.depth]; exact hresult⟩

/-! ## Dropped transactions -/

namespace MssqlConnection

/-- The two sides agree: they count the same levels, and a handle that counts none has not left the
actor inside a transaction. -/
def Agrees (conn : MssqlConnection E) : Prop :=
  conn.transactionDepth = conn.actor.transactionDepth ∧
    (conn.transactionDepth = 0 → conn.actor.conn.autocommit = true)

/-- The invariant of calls, drops and steps of the actor: what is in flight are rollbacks of dropped
transactions, and each of them will take the actor down by one level. -/
structure InStep (conn : MssqlConnection E) : Prop where
  implements : ∃ nested, conn.actor.Implements nested
  inFlight : ∀ job ∈ conn.cmdTx, job = ⟨.startRollback, .none, none⟩
  depth : conn.transactionDepth = conn.actor.transactionDepth - conn.cmdTx.length

variable {conn : MssqlConnection E}

theorem inStep_connectBlocking (contents : C) (statementCacheCapacity : ℕ)
    (settings : MssqlBufferSettings) :
    (connectBlocking E contents statementCacheCapacity settings).InStep :=
  ⟨⟨_, ConnectionActor.implements_connect _ _ _⟩, by simp [connectBlocking], rfl⟩

theorem step_startRollback {actor : ConnectionActor E}
    (h : ∃ nested, actor.Implements nested) :
    (∃ nested, (actor.step ⟨.startRollback, .none, none⟩).Implements nested) ∧
      (actor.step ⟨.startRollback, .none, none⟩).transactionDepth =
        actor.transactionDepth - 1 := by
  obtain ⟨nested, h⟩ := h
  obtain ⟨himplements, hdepth⟩ := ConnectionActor.implements_startRollback
    (s := ⟨actor, ⟨none, []⟩⟩) Faults.callsSucceed_none h
  exact ⟨⟨_, himplements⟩, hdepth⟩

/-- The actor works the rollbacks in flight off one by one, a level each. -/
theorem foldl_startRollback {jobs : List (Job A)} {actor : ConnectionActor E}
    (h : ∃ nested, actor.Implements nested)
    (hjobs : ∀ job ∈ jobs, job = ⟨.startRollback, .none, none⟩) :
    (∃ nested, (jobs.foldl ConnectionActor.step actor).Implements nested) ∧
      (jobs.foldl ConnectionActor.step actor).transactionDepth =
        actor.transactionDepth - jobs.length := by
  induction jobs generalizing actor with
  | nil => exact ⟨h, rfl⟩
  | cons job jobs ih =>
    obtain rfl := hjobs job (by simp)
    obtain ⟨hstep, hdepth⟩ := step_startRollback h
    obtain ⟨himplements, hrest⟩ := ih hstep fun job' hjob' ↦ hjobs job' (by simp [hjob'])
    refine ⟨himplements, ?_⟩
    rw [List.foldl_cons, hrest, hdepth, List.length_cons]
    omega

/-- Once nothing is in flight the two sides agree. -/
theorem InStep.drained (h : conn.InStep) :
    (∃ nested, conn.drained.actor.Implements nested) ∧
      conn.drained.actor.transactionDepth = conn.transactionDepth := by
  obtain ⟨himplements, hdepth⟩ := foldl_startRollback h.implements h.inFlight
  exact ⟨himplements, hdepth.trans h.depth.symm⟩

theorem agrees_drained_iff (h : ∃ nested, conn.drained.actor.Implements nested) :
    conn.drained.Agrees ↔ conn.transactionDepth = conn.drained.actor.transactionDepth := by
  constructor
  · exact fun hagrees ↦ hagrees.1
  · intro hdepth
    obtain ⟨nested, himplements⟩ := h
    refine ⟨hdepth, fun hzero ↦ himplements.autocommit_eq_true.2 ?_⟩
    exact hdepth.symm.trans hzero

/-- With every call succeeding, a call on a connection in step leaves it in step. -/
theorem InStep.call (h : conn.InStep) (call : TransactionCall) :
    (call.run conn .none).2.InStep := by
  by_cases hcall : call = .begin ∨ conn.transactionDepth ≠ 0
  · obtain ⟨⟨nested, himplements⟩, hdepth⟩ := h.drained
    rw [TransactionCall.run_apply hcall]
    rcases hrun : call.handler E .none ⟨conn.drained.actor, ⟨none, []⟩⟩ with ⟨r, s⟩
    obtain ⟨rfl, hnested, hafter⟩ : r = .ok () ∧ (∃ nested, s.actor.Implements nested) ∧
        s.actor.transactionDepth = call.depthAfter conn.drained.actor.transactionDepth := by
      cases call with
      | begin =>
        obtain ⟨hr, hs, hd⟩ :=
          ConnectionActor.implements_begin Faults.callsSucceed_none himplements hrun
        exact ⟨hr, ⟨_, hs⟩, hd⟩
      | commit =>
        obtain ⟨hr, hs, hd⟩ :=
          ConnectionActor.implements_commit Faults.callsSucceed_none himplements hrun
        exact ⟨hr, ⟨_, hs⟩, hd⟩
      | rollback =>
        obtain ⟨hr, hs, hd⟩ :=
          ConnectionActor.implements_rollback Faults.callsSucceed_none himplements hrun
        exact ⟨hr, ⟨_, hs⟩, hd⟩
    refine ⟨hnested, by simp, ?_⟩
    rw [List.length_nil, Nat.sub_zero, hafter, hdepth]
  · obtain ⟨hbegin, hzero⟩ := not_or.mp hcall
    rw [TransactionCall.run_idle hbegin (not_not.mp hzero)]
    exact h

/-- So does a step of the actor. -/
theorem InStep.actorStep (h : conn.InStep) : conn.actorStep.InStep := by
  rcases hqueue : conn.cmdTx with _ | ⟨job, jobs⟩
  · rw [MssqlConnection.actorStep, hqueue]
    exact h
  · have hjobs : ∀ job' ∈ job :: jobs, job' = ⟨.startRollback, .none, none⟩ := by
      rw [← hqueue]
      exact h.inFlight
    obtain rfl := hjobs job (by simp)
    obtain ⟨hstep, hdepth⟩ := step_startRollback h.implements
    rw [MssqlConnection.actorStep, hqueue]
    refine ⟨hstep, fun job' hjob' ↦ hjobs job' (by simp [hjob']), ?_⟩
    have hlevels := h.depth
    rw [hqueue, List.length_cons] at hlevels
    show conn.transactionDepth = (conn.actor.step _).transactionDepth - jobs.length
    rw [hdepth]
    omega

/-- Behind a drop, too, only rollbacks of dropped transactions are in flight, and one more. -/
theorem InStep.inFlight_startRollback (h : conn.InStep) :
    (∀ job ∈ (MssqlTransactionManager.startRollback conn .none).cmdTx,
      job = ⟨.startRollback, .none, none⟩) ∧
    (MssqlTransactionManager.startRollback conn .none).cmdTx.length = conn.cmdTx.length + 1 := by
  constructor
  · intro job hjob
    rcases List.mem_append.mp hjob with hjob | hjob
    · exact h.inFlight job hjob
    · exact List.mem_singleton.mp hjob
  · show (conn.cmdTx ++ [_]).length = _
    rw [List.length_append, List.length_singleton]

/-- Dropping a transaction keeps the connection in step if it closes the only open level. -/
theorem InStep.startRollback (h : conn.InStep) (hd : conn.transactionDepth ≤ 1) :
    (MssqlTransactionManager.startRollback conn .none).InStep := by
  obtain ⟨hinFlight, hlength⟩ := h.inFlight_startRollback
  refine ⟨h.implements, hinFlight, ?_⟩
  have hdepth := h.depth
  rw [hlength]
  show 0 = conn.actor.transactionDepth - (conn.cmdTx.length + 1)
  omega

/-- Dropping a nested transaction does not: the handle takes itself to be outside every transaction
when the actor, with everything in flight done, is still inside. -/
theorem InStep.not_agrees_startRollback (h : conn.InStep) (hd : 2 ≤ conn.transactionDepth) :
    ¬ (MssqlTransactionManager.startRollback conn .none).drained.Agrees := by
  intro hagrees
  obtain ⟨hinFlight, hlength⟩ := h.inFlight_startRollback
  obtain ⟨-, hdrained⟩ := foldl_startRollback h.implements hinFlight
  have hzero : 0 = ((MssqlTransactionManager.startRollback conn .none).cmdTx.foldl
      ConnectionActor.step conn.actor).transactionDepth := hagrees.1
  have hdepth := h.depth
  rw [hdrained, hlength] at hzero
  omega

end MssqlConnection

/-- **When the two depths agree.**  Along every run of calls, drops and steps of the actor, the two
sides agree — after each of them, as soon as the actor has drained its queue — if and only if no
transaction is dropped while more than one level is open. -/
theorem depths_agree_iff (E : Env C κ A V) (contents : C) (statementCacheCapacity : ℕ)
    (settings : MssqlBufferSettings) (ops : List TransactionOp) :
    Run.AllSteps MssqlConnection.next (fun conn op ↦ (conn.next op).drained.Agrees)
        (.connectBlocking E contents statementCacheCapacity settings) ops ↔
      Run.AllSteps MssqlConnection.next
        (fun conn op ↦ op = .startRollback → conn.transactionDepth ≤ 1)
        (.connectBlocking E contents statementCacheCapacity settings) ops := by
  have hagrees {conn : MssqlConnection E} (h : conn.InStep) : conn.drained.Agrees :=
    (MssqlConnection.agrees_drained_iff h.drained.1).2 h.drained.2.symm
  have hkeep {conn : MssqlConnection E} {op : TransactionOp} (h : conn.InStep)
      (hop : op = .startRollback → conn.transactionDepth ≤ 1) : (conn.next op).InStep := by
    cases op with
    | call call => exact h.call call
    | startRollback => exact h.startRollback (hop rfl)
    | actorStep => exact h.actorStep
  have hexact (conn : MssqlConnection E) (op : TransactionOp) (h : conn.InStep) :
      (conn.next op).drained.Agrees ↔ (op = .startRollback → conn.transactionDepth ≤ 1) := by
    constructor
    · rintro hop rfl
      by_contra hd
      exact h.not_agrees_startRollback (by omega) hop
    · exact fun hop ↦ hagrees (hkeep h hop)
  refine Run.allSteps_iff_guard ?_ (fun conn op _ ↦ hexact conn op)
    (MssqlConnection.inStep_connectBlocking _ _ _)
  exact fun conn op _ h hop ↦ hkeep h ((hexact conn op h).1 hop)

/-- A nested transaction dropped, then a commit of the outer one: nothing is in flight any more, the
handle counts no level and has answered the commit with success, and the actor is inside the outer
transaction, uncommitted. -/
theorem dropped_nested_transaction :
    let conn := [.call .begin, .call .begin, .startRollback, .actorStep].foldl MssqlConnection.next
      (.connectBlocking Env.quiet [] 100 default)
    (TransactionCall.commit.run conn .none).1 = .ok () ∧
      (TransactionCall.commit.run conn .none).2.cmdTx = [] ∧
      (TransactionCall.commit.run conn .none).2.transactionDepth = 0 ∧
      (TransactionCall.commit.run conn .none).2.actor.transactionDepth = 1 ∧
      (TransactionCall.commit.run conn .none).2.actor.conn.autocommit = false := by
  refine ⟨rfl, rfl, rfl, rfl, rfl⟩

end MssqlOdbc
