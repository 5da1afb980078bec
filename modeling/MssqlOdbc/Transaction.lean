import MssqlOdbc.Connection

/-!
# The transaction manager

`MssqlTransactionManager` stands between `sqlx` and the handle.  On success it stores the new depth
a second time, computed from the depth it read before the call.
-/

set_option autoImplicit false

namespace MssqlOdbc

variable {C κ A V : Type} {E : Env C κ A V}

namespace MssqlTransactionManager

def begin (conn : MssqlConnection E) (f : Faults) : Except Error Unit × MssqlConnection E :=
  let depth := conn.transactionDepth
  match conn.beginBlocking f with
  | (.ok (), conn) => (.ok (), conn.setTransactionDepth (depth + 1))
  | (.error e, conn) => (.error e, conn)

def commit (conn : MssqlConnection E) (f : Faults) : Except Error Unit × MssqlConnection E :=
  let depth := conn.transactionDepth
  if depth = 0 then
    (.ok (), conn)
  else
    match conn.commitBlocking f with
    | (.ok (), conn) =>
      if depth = 1 then (.ok (), conn.setTransactionDepth 0)
      else (.ok (), conn.setTransactionDepth (depth - 1))
    | (.error e, conn) => (.error e, conn)

def rollback (conn : MssqlConnection E) (f : Faults) : Except Error Unit × MssqlConnection E :=
  let depth := conn.transactionDepth
  if depth = 0 then
    (.ok (), conn)
  else
    match conn.rollbackBlocking f with
    | (.ok (), conn) =>
      if depth = 1 then (.ok (), conn.setTransactionDepth 0)
      else (.ok (), conn.setTransactionDepth (depth - 1))
    | (.error e, conn) => (.error e, conn)

def startRollback (conn : MssqlConnection E) (f : Faults) : MssqlConnection E :=
  conn.startRollback f

end MssqlTransactionManager

/-! ## Calls -/

/-- The calls that report a result. -/
inductive TransactionCall where
  | begin
  | commit
  | rollback
deriving DecidableEq, Repr

def TransactionCall.run (call : TransactionCall) (conn : MssqlConnection E) (f : Faults) :
    Except Error Unit × MssqlConnection E :=
  match call with
  | .begin => MssqlTransactionManager.begin conn f
  | .commit => MssqlTransactionManager.commit conn f
  | .rollback => MssqlTransactionManager.rollback conn f

/-- What can happen next on a connection: a call, a transaction dropped, or a step of the actor. -/
inductive TransactionOp where
  | call (call : TransactionCall)
  | startRollback
  | actorStep
deriving DecidableEq, Repr

/-- The connection after the next thing that happens, every ODBC call succeeding. -/
def MssqlConnection.next (conn : MssqlConnection E) : TransactionOp → MssqlConnection E
  | .call call => (call.run conn .none).2
  | .startRollback => MssqlTransactionManager.startRollback conn .none
  | .actorStep => conn.actorStep

end MssqlOdbc
