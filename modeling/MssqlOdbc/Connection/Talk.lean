import MssqlOdbc.Lib.Channel
import MssqlOdbc.Execute.Stream

/-!
# The actor as a producer

The handlers are programs on a wire whose receiver goes after a given number of items.  Here the
same programs are spelled out send by send: a `Talk` of a program is a producer that comes to what
the program comes to, in any room.  Talks are composed as the programs are, so that a command has
the talk its source text gives it, and `ConnectionActor.serve` is the actor with a consumer who may
do something else at every send.
-/

set_option autoImplicit false

namespace MssqlOdbc

open TxStore Channel

variable {C κ A V β γ : Type}

/-! ## Talks -/

/-- The sends of a program on the wire. -/
structure Talk (p : Wire A V → β × Wire A V) where
  /-- What the program does behind a trace, ending with its value and the longer trace. -/
  tree : List (Event A V) → Producer (ExecuteResult V) (β × List (Event A V))
  run : ∀ room trace, p ⟨room, trace⟩ =
    (((tree trace).result room).1, ⟨(tree trace).left room, ((tree trace).result room).2⟩)
  items : ∀ room trace, Wire.items ((tree trace).result room).2 =
    Wire.items trace ++ (tree trace).accepted room

namespace Talk

/-- A program that does not touch the wire. -/
def pure (b : β) : Talk (fun wire : Wire A V ↦ (b, wire)) where
  tree trace := .done (b, trace)
  run _ _ := rfl
  items _ _ := (List.append_nil _).symm

def congr {p q : Wire A V → β × Wire A V} (t : Talk p) (h : ∀ wire, q wire = p wire) : Talk q where
  tree := t.tree
  run room trace := (h _).trans (t.run room trace)
  items := t.items

def bind {p : Wire A V → β × Wire A V} {k : β → Wire A V → γ × Wire A V} (t : Talk p)
    (u : ∀ b, Talk (k b)) : Talk (fun wire ↦ k (p wire).1 (p wire).2) where
  tree trace := (t.tree trace).bind fun r ↦ (u r.1).tree r.2
  run room trace := by
    rw [t.run room trace, Producer.result_bind, Producer.left_bind]
    exact (u _).run _ _
  items room trace := by
    rw [Producer.result_bind, Producer.accepted_bind, (u _).items, t.items, List.append_assoc]

def map {p : Wire A V → β × Wire A V} (f : β → γ) (t : Talk p) :
    Talk (fun wire ↦ (f (p wire).1, (p wire).2)) :=
  t.bind fun b ↦ .pure (f b)

/-- Sending is the one thing a consumer notices. -/
def send (item : ExecuteResult V) : Talk (Wire.send item : Wire A V → Bool × Wire A V) where
  tree trace := .send item fun accepted ↦
    .done (accepted, if accepted then trace ++ [.sent item] else trace)
  run room trace := by
    match room with
    | none => rfl
    | some 0 => rfl
    | some (n + 1) => rfl
  items room trace := by
    match room with
    | none => exact Wire.items_append _ _
    | some 0 => exact (List.append_nil _).symm
    | some (n + 1) => exact Wire.items_append _ _

/-- An event the consumer does not see. -/
def log (event : Event A V) (h : Wire.items [event] = []) (b : β) :
    Talk (fun wire : Wire A V ↦ (b, wire.log event)) where
  tree trace := .done (b, trace ++ [event])
  run _ _ := rfl
  items _ trace := by
    show Wire.items (trace ++ [event]) = _
    rw [Wire.items_append, h]
    rfl

end Talk

/-! ## The walk -/

/-- Rows are sent until one is refused. -/
def Wire.sendRowsTalk : (rows : List (MssqlRow V)) →
    Talk (Wire.sendRows rows : Wire A V → Bool × Wire A V)
  | [] => .pure true
  | row :: rows =>
    ((Talk.send (.ok (.inr row))).bind (k := fun accepted ↦
        if accepted then Wire.sendRows rows else fun wire ↦ (false, wire)) fun
      | true => sendRowsTalk rows
      | false => .pure false).congr fun wire ↦ by
        rw [sendRows_cons]
        rcases wire.send (.ok (.inr row)) with ⟨_ | _, wire'⟩ <;> rfl

namespace Reading

/-- What follows the rows of a reading. -/
def ending (reading : Reading V) (wire : Wire A V) : Except Error Bool × Wire A V :=
  match reading.rows.error with
  | some e => (.error e, wire)
  | none => (result reading.unbound true, (wire.send (.ok (.inl ⟨0⟩))).2)

def endTalk (reading : Reading V) :
    Talk (reading.ending : Wire A V → Except Error Bool × Wire A V) :=
  match h : reading.rows.error with
  | some e => (Talk.pure (.error e)).congr fun wire ↦ by rw [ending, h]
  | none =>
    ((Talk.send (.ok (.inl ⟨0⟩))).map fun _ ↦ result reading.unbound true).congr fun wire ↦ by
      rw [ending, h]

def talk (reading : Reading V) :
    Talk (reading.send : Wire A V → Except Error Bool × Wire A V) :=
  ((Wire.sendRowsTalk reading.rows.items).bind (k := fun
    | false => fun wire ↦ (result reading.abandoned false, wire)
    | true => reading.ending) fun
    | false => .pure _
    | true => reading.endTalk).congr fun wire ↦ by
      rw [Reading.send]
      rcases wire.sendRows reading.rows.items with ⟨_ | _, wire'⟩ <;> rfl

end Reading

section Walk

variable (E : Env C κ A V) (settings : MssqlBufferSettings)

/-- `visitResult`, as a program on the wire. -/
def visiting (stmt : StmtHandle κ) (wire : Wire A V) :
    (Option (Except Error Unit) × StmtHandle κ) × Wire A V :=
  let visited := visitResult E settings stmt wire
  ((visited.1, visited.2.1), visited.2.2)

def visitTalk (stmt : StmtHandle κ) : Talk (visiting E settings stmt : Wire A V → _) :=
  match h : stmt.result.numResultCols with
  | .error e =>
    (Talk.pure (some (.error (databaseError "failed to read ODBC result-column count" e)),
      stmt)).congr fun wire ↦ by rw [visiting, visitResult, h]
  | .ok 0 =>
    match h' : stmt.result.rowCount with
    | .error e =>
      (Talk.pure (some (.error (databaseError "failed to read ODBC row count" e)), stmt)).congr
        fun wire ↦ by
          rw [visiting, visitResult, h]
          simp only [h']
    | .ok rowsAffected =>
      ((Talk.send (.ok (.inl ⟨(max rowsAffected 0).toNat⟩))).map fun accepted ↦
        (if accepted then none else some (.ok ()), stmt)).congr fun wire ↦ by
          rw [visiting, visitResult, h]
          simp only [h']
          rcases wire.send (.ok (.inl ⟨(max rowsAffected 0).toNat⟩)) with ⟨_ | _, wire'⟩ <;> rfl
  | .ok (_ + 1) =>
    ((stmt.result.reading E settings).talk.map fun
      | .error e => (some (.error e), CursorImpl.drop ⟨stmt⟩)
      | .ok false => (some (.ok ()), CursorImpl.drop ⟨stmt⟩)
      | .ok true => (none, CursorImpl.intoStmt ⟨stmt⟩)).congr fun wire ↦ by
        rw [visiting, visitResult, h]
        simp only [streamOneResultSet_eq]
        rcases (stmt.result.reading E settings).send wire with ⟨e | _ | _, wire'⟩ <;> rfl

/-- `driveResultSets`, as a program on the wire. -/
def driving (stmt : StmtHandle κ) (wire : Wire A V) :
    (Except Error Unit × StmtHandle κ) × Wire A V :=
  let walked := driveResultSets E settings stmt wire
  ((walked.outcome, walked.stmt), walked.wire)

/-- What follows the visit of a result. -/
def advancing (stmt : StmtHandle κ) (wire : Wire A V) :
    (Except Error Unit × StmtHandle κ) × Wire A V :=
  match stmt.moreResults with
  | (.success (), next) => driving E settings next (wire.log (.moreResults (.success ())))
  | (.successWithInfo (), next) =>
    driving E settings next (wire.log (.moreResults (.successWithInfo ())))
  | (.noData, next) => ((.ok (), next), wire.log (.moreResults .noData))
  | (other, next) =>
    ((.error (statementError other "failed to advance ODBC result set"), next),
      wire.log (.moreResults other))

theorem driving_eq (stmt : StmtHandle κ) (wire : Wire A V) :
    driving E settings stmt wire =
      match (visiting E settings stmt wire).1 with
      | (some outcome, stmt') => ((outcome, stmt'), (visiting E settings stmt wire).2)
      | (none, _) => advancing E settings stmt (visiting E settings stmt wire).2 := by
  rw [driving, driveResultSets_eq, visiting]
  rcases hvisit : visitResult E settings stmt wire with ⟨_ | outcome, stmt', wire'⟩
  · obtain rfl := visitResult_next hvisit
    simp only [advancing]
    rcases stmt'.moreResults with ⟨status, next⟩
    cases status <;> rfl
  · rfl

/-- By recursion on what is unread, like the walk itself. -/
def driveTalk (stmt : StmtHandle κ) : Talk (driving E settings stmt : Wire A V → _) :=
  ((visitTalk E settings stmt).bind (k := fun
    | (some outcome, stmt') => fun wire ↦ ((outcome, stmt'), wire)
    | (none, _) => advancing E settings stmt) fun
    | (some outcome, stmt') => .pure (outcome, stmt')
    | (none, _) =>
      match h : stmt.moreResults with
      | (.success (), next) =>
        ((Talk.log (.moreResults (.success ())) rfl ()).bind (k := fun _ ↦ driving E settings next)
          fun _ ↦ driveTalk next).congr fun wire ↦ by
            show advancing E settings stmt wire = _
            rw [advancing, h]
      | (.successWithInfo (), next) =>
        ((Talk.log (.moreResults (.successWithInfo ())) rfl ()).bind
          (k := fun _ ↦ driving E settings next) fun _ ↦ driveTalk next).congr fun wire ↦ by
            show advancing E settings stmt wire = _
            rw [advancing, h]
      | (.noData, next) =>
        (Talk.log (.moreResults .noData) rfl (.ok (), next)).congr fun wire ↦ by
          show advancing E settings stmt wire = _
          rw [advancing, h]
      | (.needData, next) =>
        (Talk.log (.moreResults .needData) rfl
          (.error (statementError .needData "failed to advance ODBC result set"), next)).congr
          fun wire ↦ by
            show advancing E settings stmt wire = _
            rw [advancing, h]
      | (.stillExecuting, next) =>
        (Talk.log (.moreResults .stillExecuting) rfl
          (.error (statementError .stillExecuting "failed to advance ODBC result set"),
            next)).congr fun wire ↦ by
              show advancing E settings stmt wire = _
              rw [advancing, h]
      | (.error e, next) =>
        (Talk.log (.moreResults (.error e)) rfl
          (.error (statementError (.error e) "failed to advance ODBC result set"), next)).congr
          fun wire ↦ by
            show advancing E settings stmt wire = _
            rw [advancing, h]).congr fun wire ↦ by
    rw [driving_eq]
    rcases (visiting E settings stmt wire).1 with ⟨_ | outcome, stmt'⟩ <;> rfl
termination_by stmt.unread.length
decreasing_by
  · exact moreResults_unread_lt h (Or.inl rfl)
  · exact moreResults_unread_lt h (Or.inr rfl)

end Walk

/-! ## Handlers -/

section Handlers

variable {E : Env C κ A V} {α : Type}

/-- A handler, as a program on the wire that ends with its result and the actor. -/
def actingOn (p : Handler E α) (actor : ConnectionActor E) (wire : Wire A V) :
    (Except Error α × ConnectionActor E) × Wire A V :=
  let ran := p ⟨actor, wire⟩
  ((ran.1, ran.2.actor), ran.2.wire)

/-- The talk of a handler, for every actor it may run on. -/
abbrev HandlerTalk (p : Handler E α) : Type := ∀ actor, Talk (actingOn p actor)

namespace HandlerTalk

variable {p : Handler E α}

/-- A handler that leaves the wire alone. -/
def silent (p : Handler E α) (g : ConnectionActor E → Except Error α × ConnectionActor E)
    (h : ∀ actor wire, p ⟨actor, wire⟩ = ((g actor).1, ⟨(g actor).2, wire⟩)) : HandlerTalk p :=
  fun actor ↦ (Talk.pure (g actor)).congr fun wire ↦ by rw [actingOn, h]

def bind {τ : Type} {k : α → Handler E τ} (t : HandlerTalk p) (u : ∀ a, HandlerTalk (k a)) :
    HandlerTalk (p >>= k) := fun actor ↦
  ((t actor).bind (k := fun
    | (.ok a, actor') => actingOn (k a) actor'
    | (.error e, actor') => fun wire ↦ ((.error e, actor'), wire)) fun
    | (.ok a, actor') => u a actor'
    | (.error e, actor') => .pure (Except.error e, actor')).congr fun wire ↦ by
      rw [actingOn, actingOn, Proc.bind_apply]
      rcases p ⟨actor, wire⟩ with ⟨e | a, s⟩ <;> rfl

end HandlerTalk

section Calls

variable (E) (f : Faults)

def lockTalk (message : String) : HandlerTalk (lock E f message) :=
  .silent _ (fun actor ↦ (if f.lock then .error (.protocol message) else .ok (), actor))
    fun actor wire ↦ by
      rw [lock]
      cases f.lock <;> rfl

def failTalk (e : Error) : HandlerTalk (.fail e : Handler E α) :=
  .silent _ (fun actor ↦ (.error e, actor)) fun _ _ ↦ rfl

def ofExceptTalk (r : Except Error α) : HandlerTalk (.ofExcept r : Handler E α) :=
  .silent _ (fun actor ↦ (r, actor)) fun _ _ ↦ rfl

/-- A change to the statement cache. -/
def cacheTalk (g : ConnectionActor E → E.cache.State) :
    HandlerTalk (.modify fun s ↦ s.setCache (g s.actor) : Handler E Unit) :=
  .silent _ (fun actor ↦ (.ok (), { actor with stmtCache := g actor })) fun _ _ ↦ rfl

def lookupTalk (sql : String) : HandlerTalk (lookup E sql) :=
  .silent _ (fun actor ↦ (.ok (E.cache.get actor.stmtCache sql),
    { actor with stmtCache := E.cache.touch actor.stmtCache sql })) fun _ _ ↦ rfl

def preallocateTalk (g : OdbcError → Error) : HandlerTalk ((preallocate E f).mapError g) :=
  .silent _ (fun actor ↦ ((match f.preallocate with
      | some e => .error (g e)
      | none => .ok ()), actor))
    fun actor wire ↦ by
      rw [Proc.mapError_apply, preallocate]
      cases f.preallocate <;> rfl

def intoPreparedTalk (sql : String) (g : OdbcError → Error) :
    HandlerTalk ((intoPrepared E sql).mapError g) :=
  .silent _ (fun actor ↦ ((match E.prepare sql actor.conn.working with
      | .error e => .error (g e)
      | .ok info => .ok ⟨sql, info, .closed⟩), actor))
    fun actor wire ↦ by
      rw [Proc.mapError_apply, intoPrepared_apply]
      cases E.prepare sql actor.conn.working <;> rfl

def executeStatementTalk (sql : String) (parameters : List A) :
    HandlerTalk (executeStatement E (.executed sql parameters) sql parameters) := fun actor ↦
  (Talk.log (.executed sql parameters) rfl
    (.ok (E.exec sql parameters actor.conn.working).1.executed,
      { actor with conn :=
        actor.conn.write fun contents ↦ (E.exec sql parameters contents).2 })).congr fun wire ↦ by
    rw [actingOn, executeStatement_apply]
    rfl

def driveHandlerTalk (stmt : StmtHandle κ) : HandlerTalk (drive E stmt) := fun actor ↦
  ((driveTalk E actor.bufferSettings stmt).map fun walked ↦ (.ok walked, actor)).congr
    fun _ ↦ rfl

/-! ### Execute -/

def executeCachedTalk (sql : String) (parameters : List A) (prepared : Prepared κ) :
    HandlerTalk (executeCached E f sql parameters prepared) :=
  (lockTalk E f _).bind fun _ ↦ (executeStatementTalk E prepared.sql parameters).bind fun
    | (.error _, stmt) => (cacheTalk E fun actor ↦ E.cache.put actor.stmtCache sql
        { prepared with stmt := stmt }).bind fun _ ↦ failTalk E _
    | (.ok cursor, stmt) => (driveHandlerTalk E (bareHandle cursor stmt)).bind fun walked ↦
        (cacheTalk E fun actor ↦ E.cache.put actor.stmtCache sql
          { prepared with stmt := walked.2 }).bind fun _ ↦ ofExceptTalk E walked.1

def executeUncachedTalk (sql : String) (parameters : List A) :
    HandlerTalk (executeUncached E f sql parameters) :=
  (intoPreparedTalk E sql _).bind fun prepared ↦ (lockTalk E f _).bind fun _ ↦
    (executeStatementTalk E prepared.sql parameters).bind fun
    | (.error _, _) => failTalk E _
    | (.ok none, stmt) => (driveHandlerTalk E stmt).bind fun
      | (.ok (), stmt) => cacheTalk E fun actor ↦ E.cache.insert actor.stmtCache sql
          { prepared with stmt := stmt }
      | (.error e, _) => failTalk E e
    | (.ok (some cursor), _) => (driveHandlerTalk E cursor.intoStmt).bind fun walked ↦
        ofExceptTalk E walked.1

def executeOneShotTalk (sql : String) (parameters : List A) :
    HandlerTalk (executeOneShot E f sql parameters) :=
  (preallocateTalk E f _).bind fun _ ↦ (executeStatementTalk E sql parameters).bind fun
    | (.error _, _) => failTalk E _
    | (.ok cursor, stmt) => (driveHandlerTalk E (bareHandle cursor stmt)).bind fun walked ↦
        ofExceptTalk E walked.1

def handleExecuteTalk (sql : String) (arguments : Option (List A)) (persistent : Bool) :
    HandlerTalk (handleExecute E f sql arguments persistent) := fun actor ↦
  if h : usesCache arguments persistent = true then
    ((lookupTalk E sql).bind (k := fun
      | some prepared => executeCached E f sql (arguments.getD []) prepared
      | none => executeUncached E f sql (arguments.getD [])) fun
      | some prepared => executeCachedTalk E f sql _ prepared
      | none => executeUncachedTalk E f sql _) actor |>.congr fun wire ↦ by
        rw [actingOn, handleExecute, ← usesCache, if_pos h]
        rfl
  else
    (executeOneShotTalk E f sql (arguments.getD []) actor).congr fun wire ↦ by
      rw [actingOn, handleExecute, ← usesCache, if_neg h]
      rfl

end Calls

end Handlers

/-! ## The actor -/

variable {E : Env C κ A V}

namespace ConnectionActor

/-- An `Execute` command as a program on the wire: what the handler fails with is sent. -/
def executing (actor : ConnectionActor E) (f : Faults) (sql : String) (args : Option (List A))
    (persistent : Bool) (wire : Wire A V) : ConnectionActor E × Wire A V :=
  match actingOn (handleExecute E f sql args persistent) actor wire with
  | ((.error e, actor), wire) => (actor, (wire.send (.error e)).2)
  | ((.ok (), actor), wire) => (actor, wire)

def executingTalk (actor : ConnectionActor E) (f : Faults) (sql : String)
    (args : Option (List A)) (persistent : Bool) : Talk (actor.executing f sql args persistent) :=
  ((handleExecuteTalk E f sql args persistent actor).bind (k := fun
    | (.error e, actor) => fun wire ↦ (actor, (wire.send (.error e)).2)
    | (.ok (), actor) => fun wire ↦ (actor, wire)) fun
    | (.error e, actor) => (Talk.send (.error e)).map fun _ ↦ actor
    | (.ok (), actor) => .pure actor).congr fun wire ↦ by
      rw [executing]
      rcases actingOn (handleExecute E f sql args persistent) actor wire with
        ⟨⟨e | _, actor'⟩, wire'⟩ <;> rfl

theorem processExecute_eq (actor : ConnectionActor E) (f : Faults) (room : Option ℕ) (sql : String)
    (args : Option (List A)) (persistent : Bool) :
    actor.processExecute f room sql args persistent =
      ⟨(actor.executing f sql args persistent ⟨room, []⟩).1,
        (actor.executing f sql args persistent ⟨room, []⟩).2.trace, .none⟩ := by
  rw [processExecute, executing, actingOn]
  rcases handleExecute E f sql args persistent ⟨actor, ⟨room, []⟩⟩ with ⟨e | _, s⟩ <;> rfl

end ConnectionActor

/-- What the handle sends, with what goes wrong while the actor works on it.  `Shutdown` ends the
loop; nothing in the driver sends it. -/
structure Request (A : Type) where
  command : Command A
  faults : Faults
  running : command.isShutdown = false

/-- The request as a job whose consumer goes after `room` items. -/
def Request.job (request : Request A) (room : Option ℕ) : Job A :=
  ⟨request.command, request.faults, room⟩

/-- What is streamed to the consumer of a command; only an `Execute` has a stream. -/
def Command.streamed (command : Command A) (processed : Processed E) : List (ExecuteResult V) :=
  match command with
  | .execute _ _ _ => Wire.items processed.trace
  | _ => []

namespace ConnectionActor

/-- The actor on a request, send by send. -/
def serve (actor : ConnectionActor E) (request : Request A) :
    Producer (ExecuteResult V) (Processed E) :=
  match request.command with
  | .execute sql args persistent =>
    ((actor.executingTalk request.faults sql args persistent).tree []).bind fun r ↦
      .done ⟨r.1, r.2, .none⟩
  | command => .done (actor.process ⟨command, request.faults, none⟩)

/-- **The actor, send by send, comes to what it comes to in one piece.** -/
theorem serve_result (actor : ConnectionActor E) (request : Request A) (room : Option ℕ) :
    (actor.serve request).result room = actor.process (request.job room) := by
  obtain ⟨command, f, hrunning⟩ := request
  cases command with
  | execute sql args persistent =>
    have hrun := (actor.executingTalk f sql args persistent).run room []
    show (Producer.bind _ _).result room = actor.processExecute f room sql args persistent
    rw [Producer.result_bind, processExecute_eq, hrun]
    rfl
  | _ => rfl

theorem serve_accepted (actor : ConnectionActor E) (request : Request A) (room : Option ℕ) :
    (actor.serve request).accepted room =
      request.command.streamed (actor.process (request.job room)) := by
  obtain ⟨command, f, hrunning⟩ := request
  cases command with
  | execute sql args persistent =>
    have hrun := (actor.executingTalk f sql args persistent).run room []
    have hitems := (actor.executingTalk f sql args persistent).items room []
    show (Producer.bind _ _).accepted room =
      Wire.items (actor.processExecute f room sql args persistent).trace
    rw [Producer.accepted_bind, processExecute_eq, hrun, hitems]
    exact List.append_nil _
  | _ => rfl

end ConnectionActor

end MssqlOdbc
