import MssqlOdbc.Transaction.Depth

/-!
# Transactions as the holder of the connection sees them

The holder of a connection begins, commits and rolls back, sends statements without waiting for
them, and drops transactions; the actor works on the commands in flight at any moment in between.
What the holder wants to see is `TxStore.Nested`, one operation after the other, as if there were
no queue: a statement sent behind a dropped transaction is not undone with it, and one sent before
it is.

`Follows` is the simulation: the commands in flight, applied to what the actor implements, lead to
what the holder sees.  `handle_nested_iff` says when it holds: as long as no transaction is dropped
while more than one level is open.
-/

set_option autoImplicit false

namespace MssqlOdbc

open TxStore

variable {C κ A V : Type} {E : Env C κ A V}

/-- What can happen next on a connection on which statements are sent, too. -/
inductive HandleOp (A : Type) where
  | call (call : TransactionCall)
  | startRollback
  | send (command : Command A) (room : Option ℕ)
  | actorStep

/-- Sends a command and does not wait for it. -/
def MssqlConnection.send (conn : MssqlConnection E) (job : Job A) : MssqlConnection E :=
  { conn with cmdTx := conn.cmdTx ++ [job] }

namespace HandleOp

/-- What a call reports; nothing else reports anything. -/
def result (conn : MssqlConnection E) : HandleOp A → Except Error Unit
  | call c => (c.run conn .none).1
  | startRollback | send _ _ | actorStep => .ok ()

/-- The connection afterwards, every ODBC call succeeding. -/
def next (conn : MssqlConnection E) : HandleOp A → MssqlConnection E
  | call c => (c.run conn .none).2
  | startRollback => MssqlTransactionManager.startRollback conn .none
  | send command room => conn.send ⟨command, .none, room⟩
  | actorStep => conn.actorStep

variable (E) in
/-- What the holder means by it.  That the actor works is not for the holder to see. -/
def reference : HandleOp A → Nested C → Nested C
  | call .begin => Nested.enter
  | call .commit => Nested.commit
  | call .rollback | startRollback => Nested.rollback
  | send command _ => Nested.write (command.effect E)
  | actorStep => id

/-- Only statements are sent; migrations have calls of their own. -/
def IsStatement : HandleOp A → Prop
  | send command _ => command.isTransaction = false ∧ command.isMigration = false
  | call _ | startRollback | actorStep => True

end HandleOp

/-! ## The simulation -/

/-- The actor counts the levels of what it implements. -/
theorem ConnectionActor.Implements.depth {actor : ConnectionActor E} {nested : Nested C}
    (h : actor.Implements nested) : actor.transactionDepth = nested.snapshots.length := by
  obtain ⟨conn, cache, depth, settings⟩ := actor
  cases h with
  | idle c => rfl
  | inside snaps hlive => simp

/-- The commands in flight lead from what the actor implements to what the holder sees. -/
structure MssqlConnection.Follows (conn : MssqlConnection E) (nested : Nested C) : Prop where
  implements : ∃ before, conn.actor.Implements before ∧
    conn.cmdTx.foldl (fun nested job ↦ job.command.reference E nested) before = nested
  keyed : CacheKeyed conn.actor.stmtCache
  inFlight : ∀ job ∈ conn.cmdTx, job.faults = .none ∧ job.command.isMigration = false
  depth : conn.transactionDepth = nested.snapshots.length

namespace MssqlConnection

variable {conn : MssqlConnection E} {nested : Nested C}

theorem follows_connectBlocking (contents : C) (statementCacheCapacity : ℕ)
    (settings : MssqlBufferSettings) :
    (connectBlocking E contents statementCacheCapacity settings).Follows
      ⟨contents, contents, []⟩ where
  implements := ⟨_, ConnectionActor.implements_connect _ _ _, rfl⟩
  keyed := CacheImpl.all_new _
  inFlight := List.forall_mem_nil _
  depth := rfl

/-- With the queue worked off, the actor implements what the holder sees. -/
theorem Follows.drained (h : conn.Follows nested)
    (hprepare : ∀ sql contents, ∃ info, E.prepare sql contents = .ok info) :
    conn.drained.actor.Implements nested ∧ CacheKeyed conn.drained.actor.stmtCache := by
  obtain ⟨before, hbefore, rfl⟩ := h.implements
  constructor
  · exact ConnectionActor.implements_run hbefore h.keyed (fun job hjob ↦ (h.inFlight job hjob).2)
      (fun job hjob ↦ (h.inFlight job hjob).1) hprepare
  · exact List.foldlRecOn (motive := fun actor ↦ CacheKeyed actor.stmtCache) conn.cmdTx
      ConnectionActor.step h.keyed fun actor hactor job _ ↦
        ConnectionActor.step_cacheKeyed hactor job

/-- A command that is sent is one more operation, in the order of sending. -/
theorem Follows.send (h : conn.Follows nested) (job : Job A) (hf : job.faults = .none)
    (hmig : job.command.isMigration = false) {depth : ℕ}
    (hdepth : depth = (job.command.reference E nested).snapshots.length) :
    ({ conn with cmdTx := conn.cmdTx ++ [job], transactionDepth := depth } :
      MssqlConnection E).Follows (job.command.reference E nested) := by
  obtain ⟨before, hbefore, rfl⟩ := h.implements
  refine ⟨⟨before, hbefore, ?_⟩, h.keyed, ?_, hdepth⟩
  · rw [List.foldl_append]
    rfl
  · intro job' hjob'
    rcases List.mem_append.1 hjob' with hjob' | hjob'
    · exact h.inFlight job' hjob'
    · rw [List.mem_singleton.1 hjob']
      exact ⟨hf, hmig⟩

/-- The actor moves one operation from the queue into what it implements. -/
theorem Follows.actorStep (h : conn.Follows nested)
    (hprepare : ∀ sql contents, ∃ info, E.prepare sql contents = .ok info) :
    conn.actorStep.Follows nested := by
  obtain ⟨before, hbefore, hfold⟩ := h.implements
  rcases hqueue : conn.cmdTx with _ | ⟨job, jobs⟩
  · rw [MssqlConnection.actorStep, hqueue]
    exact h
  · have hflight := h.inFlight
    rw [hqueue] at hfold hflight
    obtain ⟨hf, hmig⟩ := hflight job List.mem_cons_self
    rw [MssqlConnection.actorStep, hqueue]
    exact {
      implements := ⟨_, ConnectionActor.implements_step hbefore h.keyed hmig hf hprepare, hfold⟩
      keyed := ConnectionActor.step_cacheKeyed h.keyed job
      inFlight := fun job' hjob' ↦ hflight job' (List.mem_cons_of_mem job hjob')
      depth := h.depth }

/-- A call waits until the queue is worked off, and then does what it means. -/
theorem Follows.call (h : conn.Follows nested)
    (hprepare : ∀ sql contents, ∃ info, E.prepare sql contents = .ok info)
    (call : TransactionCall) : (call.run conn .none).1 = .ok () ∧
      (call.run conn .none).2.Follows ((HandleOp.call call : HandleOp A).reference E nested) := by
  by_cases hcall : call = .begin ∨ conn.transactionDepth ≠ 0
  · obtain ⟨himplements, hkeyed⟩ := h.drained hprepare
    have hframed : Framed fun s : Session E ↦ CacheKeyed s.actor.stmtCache :=
      ⟨fun _ _ h ↦ h, fun _ _ h ↦ h⟩
    rw [TransactionCall.run_apply hcall]
    rcases hrun : call.handler E .none ⟨conn.drained.actor, ⟨none, []⟩⟩ with ⟨r, s⟩
    obtain ⟨rfl, hnested, hdepth, hcache⟩ : r = .ok () ∧
        s.actor.Implements ((HandleOp.call call : HandleOp A).reference E nested) ∧
        call.depthAfter nested.snapshots.length =
          ((HandleOp.call call : HandleOp A).reference E nested).snapshots.length ∧
        CacheKeyed s.actor.stmtCache := by
      have hsnd : s = (call.handler E .none ⟨conn.drained.actor, ⟨none, []⟩⟩).2 := by rw [hrun]
      cases call with
      | begin =>
        obtain ⟨hr, hs, -⟩ :=
          ConnectionActor.implements_begin Faults.callsSucceed_none himplements hrun
        exact ⟨hr, hs, rfl, hsnd ▸ hframed.handleBegin (fun _ _ h ↦ h) _ hkeyed⟩
      | commit =>
        obtain ⟨hr, hs, -⟩ :=
          ConnectionActor.implements_commit Faults.callsSucceed_none himplements hrun
        exact ⟨hr, hs, nested.length_commit.symm,
          hsnd ▸ hframed.handleCommit (fun _ _ h ↦ h) _ hkeyed⟩
      | rollback =>
        obtain ⟨hr, hs, -⟩ :=
          ConnectionActor.implements_rollback Faults.callsSucceed_none himplements hrun
        exact ⟨hr, hs, nested.length_rollback.symm,
          hsnd ▸ hframed.handleRollback (fun _ _ h ↦ h) _ hkeyed⟩
    exact ⟨rfl, ⟨_, hnested, rfl⟩, hcache, List.forall_mem_nil _, by rw [h.depth]; exact hdepth⟩
  · obtain ⟨hbegin, hzero⟩ := not_or.mp hcall
    have hzero : conn.transactionDepth = 0 := not_not.mp hzero
    obtain ⟨hcommit, hrollback⟩ := nested.eq_of_idle (h.depth ▸ hzero)
    rw [TransactionCall.run_idle hbegin hzero]
    refine ⟨rfl, ?_⟩
    cases call with
    | begin => exact absurd rfl hbegin
    | commit =>
      show conn.Follows nested.commit
      rw [hcommit]
      exact h
    | rollback =>
      show conn.Follows nested.rollback
      rw [hrollback]
      exact h

end MssqlConnection

/-! ## Runs -/

/-- The connection and what its holder sees, after the next thing that happens. -/
def HandleOp.step (s : MssqlConnection E × Nested C) (op : HandleOp A) :
    MssqlConnection E × Nested C :=
  (op.next s.1, op.reference E s.2)

/-- A call has succeeded; the handle counts the levels the holder sees; and once the actor has
worked the queue off, it has what the holder sees, committed and pending. -/
def HandleOp.Seen (s : MssqlConnection E × Nested C) (op : HandleOp A) : Prop :=
  op.result s.1 = .ok () ∧
    (op.next s.1).transactionDepth = (op.reference E s.2).snapshots.length ∧
    (op.next s.1).drained.actor.conn.committed = (op.reference E s.2).committed ∧
    (op.next s.1).drained.actor.conn.working = (op.reference E s.2).working

section Runs

variable {s : MssqlConnection E × Nested C} {op : HandleOp A}

theorem HandleOp.seen_of_follows
    (hprepare : ∀ sql contents, ∃ info, E.prepare sql contents = .ok info)
    (hresult : op.result s.1 = .ok ()) (h : (op.step s).1.Follows (op.step s).2) : op.Seen s := by
  obtain ⟨himplements, -⟩ := h.drained hprepare
  exact ⟨hresult, h.depth, himplements.committed_eq, himplements.working_eq⟩

/-- Whatever happens next, the simulation goes on, unless a nested transaction is dropped. -/
theorem HandleOp.step_follows
    (hprepare : ∀ sql contents, ∃ info, E.prepare sql contents = .ok info)
    (h : s.1.Follows s.2) (hop : op.IsStatement)
    (hdrop : op = .startRollback → s.1.transactionDepth ≤ 1) :
    op.result s.1 = .ok () ∧ (op.step s).1.Follows (op.step s).2 := by
  cases op with
  | call call => exact h.call hprepare call
  | actorStep => exact ⟨rfl, h.actorStep hprepare⟩
  | send command room =>
    have hmeans := Command.reference_of_statement (E := E) hop.1
    have hdepth : s.1.transactionDepth = (command.reference E s.2).snapshots.length := by
      rw [hmeans, Nested.snapshots_write]
      exact h.depth
    have hsent := h.send ⟨command, .none, room⟩ rfl hop.2 hdepth
    refine ⟨rfl, ?_⟩
    show MssqlConnection.Follows _ (Nested.write (command.effect E) s.2)
    rw [← hmeans]
    exact hsent
  | startRollback =>
    have hlevels : s.2.snapshots.length ≤ 1 := h.depth ▸ hdrop rfl
    have hdepth : 0 = s.2.rollback.snapshots.length := by
      rw [Nested.length_rollback]
      omega
    exact ⟨rfl, h.send ⟨.startRollback, .none, none⟩ rfl rfl hdepth⟩

/-- Dropping a nested transaction makes the handle count no level where one is left. -/
theorem HandleOp.depth_le_of_seen (h : s.1.Follows s.2)
    (hseen : (HandleOp.startRollback : HandleOp A).Seen s) : s.1.transactionDepth ≤ 1 := by
  have hdepth : 0 = s.2.rollback.snapshots.length := hseen.2.1
  rw [Nested.length_rollback] at hdepth
  rw [h.depth]
  omega

end Runs

/-- **The holder sees nested transactions**, whatever it sends without waiting, whatever it drops
and whenever the actor works: each call does its operation, each statement is carried out in the
transaction it was sent in, a dropped transaction takes exactly its own statements back; if and only
if no transaction is dropped while more than one level is open. -/
theorem handle_nested_iff (E : Env C κ A V)
    (hprepare : ∀ sql contents, ∃ info, E.prepare sql contents = .ok info) (contents : C)
    (statementCacheCapacity : ℕ) (settings : MssqlBufferSettings) (ops : List (HandleOp A))
    (hops : ∀ op ∈ ops, op.IsStatement) :
    let start : MssqlConnection E × Nested C :=
      (.connectBlocking E contents statementCacheCapacity settings, ⟨contents, contents, []⟩)
    Run.AllSteps HandleOp.step (fun s op ↦ op.Seen s) start ops ↔
      Run.AllSteps HandleOp.step
        (fun s op ↦ op = .startRollback → s.1.transactionDepth ≤ 1) start ops := by
  have hexact (s : MssqlConnection E × Nested C) (op : HandleOp A) (hop : op ∈ ops)
      (h : s.1.Follows s.2) :
      op.Seen s ↔ (op = .startRollback → s.1.transactionDepth ≤ 1) := by
    constructor
    · rintro hseen rfl
      exact HandleOp.depth_le_of_seen h hseen
    · intro hdrop
      obtain ⟨hresult, hfollows⟩ := HandleOp.step_follows hprepare h (hops op hop) hdrop
      exact HandleOp.seen_of_follows hprepare hresult hfollows
  refine Run.allSteps_iff_guard ?_ hexact (MssqlConnection.follows_connectBlocking _ _ _)
  intro s op hop h hseen
  exact (HandleOp.step_follows hprepare h (hops op hop) ((hexact s op hop h).1 hseen)).2

/-- A transaction is dropped and a statement sent right behind it: what was written before is
undone, what is written behind is published. -/
theorem handle_nested_quiet :
    let start : MssqlConnection Env.quiet × Nested (List String) :=
      (.connectBlocking Env.quiet [] 100 default, ⟨[], [], []⟩)
    Run.AllSteps HandleOp.step (fun s op ↦ op.Seen s) start
      [.call .begin, .send (.execSql "dropped") none, .startRollback,
        .send (.execSql "kept") none, .actorStep] :=
  (handle_nested_iff Env.quiet (fun _ _ ↦ ⟨_, rfl⟩) [] 100 default _
    (by simp [HandleOp.IsStatement, Command.isTransaction, Command.isMigration])).2
    ⟨by rintro ⟨⟩, by rintro ⟨⟩, fun _ ↦ Nat.le_refl 1, by rintro ⟨⟩, by rintro ⟨⟩, trivial⟩

end MssqlOdbc
