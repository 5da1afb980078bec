import MssqlOdbc.Connection.Actor

/-!
# The connection handle

`MssqlConnection` is what the caller holds: the sending end of the actor's command channel and a
transaction depth of its own.  The actor is on the other side, with whatever commands were sent and
not processed yet; it may take the next one at any moment (`actorStep`).

A blocking call waits for the answer to its command.  The channel is first in, first out, so by
then the actor has processed everything that was sent before (`drained`).
-/

set_option autoImplicit false

namespace MssqlOdbc

variable {C κ A V : Type}

/-- The handle, together with the commands in flight and the actor they are sent to. -/
structure MssqlConnection (E : Env C κ A V) where
  /-- The commands sent and not processed, oldest first. -/
  cmdTx : List (Job A)
  transactionDepth : ℕ
  actor : ConnectionActor E

/-- The answer to a command that has nothing to report but its success. -/
def Response.result : Response → Except Error Unit
  | .done result => result
  | _ => .ok ()

namespace MssqlConnection

variable {E : Env C κ A V}

variable (E) in
def connectBlocking (contents : C) (statementCacheCapacity : ℕ)
    (bufferSettings : MssqlBufferSettings) : MssqlConnection E where
  cmdTx := []
  transactionDepth := 0
  actor := .connect E contents statementCacheCapacity bufferSettings

/-- The actor takes the next command off the channel. -/
def actorStep (conn : MssqlConnection E) : MssqlConnection E :=
  match conn.cmdTx with
  | [] => conn
  | job :: jobs => { conn with cmdTx := jobs, actor := conn.actor.step job }

/-- The actor has processed every command in flight. -/
def drained (conn : MssqlConnection E) : MssqlConnection E :=
  { conn with cmdTx := [], actor := conn.cmdTx.foldl ConnectionActor.step conn.actor }

/-- Sends a command and waits for its answer. -/
def sendCommandBlocking (conn : MssqlConnection E) (job : Job A) : Response × MssqlConnection E :=
  let processed := conn.drained.actor.process job
  (processed.response, { conn.drained with actor := processed.actor })

def setTransactionDepth (conn : MssqlConnection E) (depth : ℕ) : MssqlConnection E :=
  { conn with transactionDepth := depth }

/-! ## Transactions -/

def beginBlocking (conn : MssqlConnection E) (f : Faults) :
    Except Error Unit × MssqlConnection E :=
  let (response, conn) := conn.sendCommandBlocking ⟨.begin, f, none⟩
  match response.result with
  | .ok () => (.ok (), conn.setTransactionDepth (conn.transactionDepth + 1))
  | .error e => (.error e, conn)

def commitBlocking (conn : MssqlConnection E) (f : Faults) :
    Except Error Unit × MssqlConnection E :=
  let depth := conn.transactionDepth
  if depth = 0 then
    (.ok (), conn)
  else
    let (response, conn) := conn.sendCommandBlocking ⟨.commit, f, none⟩
    match response.result with
    | .ok () =>
      if depth = 1 then (.ok (), conn.setTransactionDepth 0)
      else (.ok (), conn.setTransactionDepth (conn.transactionDepth - 1))
    | .error e => (.error e, conn)

def rollbackBlocking (conn : MssqlConnection E) (f : Faults) :
    Except Error Unit × MssqlConnection E :=
  let depth := conn.transactionDepth
  if depth = 0 then
    (.ok (), conn)
  else
    let (response, conn) := conn.sendCommandBlocking ⟨.rollback, f, none⟩
    match response.result with
    | .ok () =>
      if depth = 1 then (.ok (), conn.setTransactionDepth 0)
      else (.ok (), conn.setTransactionDepth (conn.transactionDepth - 1))
    | .error e => (.error e, conn)

/-- The drop path: the command is sent without waiting, and the handle's depth is reset at once. -/
def startRollback (conn : MssqlConnection E) (f : Faults) : MssqlConnection E :=
  { conn with cmdTx := conn.cmdTx ++ [⟨.startRollback, f, none⟩], transactionDepth := 0 }

end MssqlConnection

end MssqlOdbc
