import MssqlOdbc.Connection.Actor

/-!
# What the transaction handlers do

One inversion lemma for each handler: how it can end, with every ODBC call free to fail, and what
it has then done to the connection and to the depth.  Nothing above this file looks into a handler
again.  None of them touches the statement cache or the buffer settings, so what they do is stated
as the actor they leave.

With no failing call the handlers act on the connection as a client of `TxStore` must: each case
says which operation of the store was performed, and at which depth.
-/

set_option autoImplicit false

namespace MssqlOdbc

open TxStore

variable {C κ A V : Type} {E : Env C κ A V} {f : Faults}

/-! ## Calls -/

variable {α : Type}

theorem lock_bind {message : String} {k : Unit → Handler E α} {s s' : Session E}
    {r : Except Error α} (h : (lock E f message >>= k) s = (r, s')) :
    (∃ e, r = .error e ∧ f.lock = true ∧ s' = s) ∨ f.lock = false ∧ k () s = (r, s') := by
  cases hl : f.lock with
  | true =>
    rw [lock, hl] at h
    cases h
    exact Or.inl ⟨_, rfl, rfl, rfl⟩
  | false =>
    rw [lock, hl] at h
    exact Or.inr ⟨rfl, h⟩

theorem connectionCall_ok {fault : Option OdbcError} {effect : Connection C → Connection C}
    {s s' : Session E} {u : Unit} (h : connectionCall E fault effect s = (.ok u, s')) :
    fault = none ∧ s' = s.setConn (effect s.actor.conn) := by
  cases fault with
  | none => cases h; exact ⟨rfl, rfl⟩
  | some e => cases h

theorem connectionCall_error {fault : Option OdbcError} {effect : Connection C → Connection C}
    {s s' : Session E} {e : OdbcError} (h : connectionCall E fault effect s = (.error e, s')) :
    fault = some e ∧ s' = s := by
  cases fault with
  | none => cases h
  | some e => cases h; exact ⟨rfl, rfl⟩

theorem connectionCall_bind {fault : Option OdbcError} {effect : Connection C → Connection C}
    {context : OdbcError → Error} {k : Unit → Handler E α} {s s' : Session E} {r : Except Error α}
    (h : ((connectionCall E fault effect).mapError context >>= k) s = (r, s')) :
    (∃ e, r = .error e ∧ fault ≠ none ∧ s' = s) ∨
      fault = none ∧ k () (s.setConn (effect s.actor.conn)) = (r, s') := by
  cases fault with
  | none => exact Or.inr ⟨rfl, h⟩
  | some e =>
    cases h
    exact Or.inl ⟨_, rfl, Option.some_ne_none e, rfl⟩

/-- What a call does to the connection when its error is ignored. -/
def ignored (fault : Option OdbcError) (effect : Connection C → Connection C)
    (conn : Connection C) : Connection C :=
  match fault with
  | none => effect conn
  | some _ => conn

/-- Whether it succeeds or not, such a call touches nothing but the connection. -/
theorem connectionCall_snd (fault : Option OdbcError) (effect : Connection C → Connection C)
    (s : Session E) : (connectionCall E fault effect s).2 =
      s.setConn (ignored fault effect s.actor.conn) := by
  cases fault with
  | none => rfl
  | some e => rfl

/-- A savepoint statement changes the connection if it succeeds, and nothing if it fails. -/
theorem savepointStatement_cases {sql : Sql} {effect : Connection C → Option (Connection C)}
    {s s' : Session E} {r : Except OdbcError (Option (CursorImpl κ))}
    (h : savepointStatement E f sql effect s = (r, s')) :
    (∃ e, r = .error e ∧ s'.actor = s.actor ∧
      (f.transactionSql = none → effect s.actor.conn = none)) ∨
    ∃ c conn, r = .ok c ∧ f.transactionSql = none ∧ effect s.actor.conn = some conn ∧
      s'.actor = { s.actor with conn := conn } := by
  rw [savepointStatement, Proc.modify_bind_apply] at h
  cases hf : f.transactionSql with
  | some e =>
    rw [hf] at h
    cases h
    exact Or.inl ⟨e, rfl, rfl, nofun⟩
  | none =>
    simp only [hf, Proc.get_bind_apply, Session.log_actor] at h
    cases heffect : effect s.actor.conn with
    | none =>
      rw [heffect] at h
      cases h
      exact Or.inl ⟨_, rfl, rfl, fun _ ↦ rfl⟩
    | some conn =>
      rw [heffect] at h
      cases h
      exact Or.inr ⟨_, conn, rfl, rfl, rfl, rfl⟩

theorem savepointStatement_bind {sql : Sql} {effect : Connection C → Option (Connection C)}
    {context : OdbcError → Error} {k : Option (CursorImpl κ) → Handler E α} {s s' : Session E}
    {r : Except Error α}
    (h : ((savepointStatement E f sql effect).mapError context >>= k) s = (r, s')) :
    (∃ e, r = .error e ∧ s'.actor = s.actor ∧
      (f.transactionSql = none → effect s.actor.conn = none)) ∨
    ∃ c conn s₁, effect s.actor.conn = some conn ∧ s₁.actor = { s.actor with conn := conn } ∧
      k c s₁ = (r, s') := by
  obtain ⟨e, hrun, rfl⟩ | ⟨c, s₁, hrun, h₁⟩ := Proc.bind_cases h
  · obtain ⟨e', hrun, -⟩ := Proc.mapError_error hrun
    obtain ⟨-, -, hfailed⟩ | ⟨c, conn, hok, -⟩ := savepointStatement_cases hrun
    · exact Or.inl ⟨e, rfl, hfailed⟩
    · cases hok
  · obtain ⟨e, herror, -⟩ | ⟨-, conn, -, -, hconn, hactor⟩ :=
      savepointStatement_cases (Proc.mapError_ok hrun)
    · cases herror
    · exact Or.inr ⟨c, conn, s₁, hconn, hactor, h₁⟩

/-! ## Handlers -/

/-- A begin that fails changes nothing; one that succeeds switches autocommit off or makes the
savepoint of the level. -/
theorem handleBegin_cases {s s' : Session E} {r : Except Error Unit}
    (h : handleBegin E f s = (r, s')) :
    (∃ e, r = .error e ∧ s'.actor = s.actor ∧
      (f.CallsSucceed → s.actor.transactionDepth ≠ 0 ∧
        s.actor.conn.save (savepointName s.actor.transactionDepth) = none)) ∨
    (r = .ok () ∧ s.actor.transactionDepth = 0 ∧
      s'.actor = { s.actor with
        conn := s.actor.conn.setAutocommit false, transactionDepth := 1 }) ∨
    (r = .ok () ∧ s.actor.transactionDepth ≠ 0 ∧ ∃ conn,
      s.actor.conn.save (savepointName s.actor.transactionDepth) = some conn ∧
      s'.actor = { s.actor with
        conn := conn, transactionDepth := s.actor.transactionDepth + 1 }) := by
  rw [handleBegin, Proc.get_bind_apply] at h
  by_cases hd : s.actor.transactionDepth = 0
  · rw [if_pos hd] at h
    obtain ⟨e, rfl, hl, rfl⟩ | ⟨-, h⟩ := lock_bind h
    · exact Or.inl ⟨e, rfl, rfl, fun hok ↦ by simp [hok.lock] at hl⟩
    obtain ⟨e, rfl, hauto, rfl⟩ | ⟨-, h⟩ := connectionCall_bind h
    · exact Or.inl ⟨e, rfl, rfl, fun hok ↦ absurd (hok.setAutocommit false) hauto⟩
    cases h
    exact Or.inr (Or.inl ⟨rfl, hd, by rw [hd]; rfl⟩)
  · rw [if_neg hd] at h
    obtain ⟨e, rfl, hl, rfl⟩ | ⟨-, h⟩ := lock_bind h
    · exact Or.inl ⟨e, rfl, rfl, fun hok ↦ by simp [hok.lock] at hl⟩
    obtain ⟨e, rfl, hactor, hsave⟩ | ⟨c, conn, s₁, hconn, hactor, h⟩ := savepointStatement_bind h
    · exact Or.inl ⟨e, rfl, hactor, fun hok ↦ ⟨hd, hsave hok.transactionSql⟩⟩
    cases h
    exact Or.inr (Or.inr ⟨rfl, hd, conn, hconn, by rw [Session.setDepth_actor, hactor]⟩)

/-- A commit that fails keeps the depth, and with it the open transaction; it may have published
what the transaction wrote. -/
theorem handleCommit_cases {s s' : Session E} {r : Except Error Unit}
    (h : handleCommit E f s = (r, s')) :
    (∃ e, r = .error e ∧ s.actor.transactionDepth = 1 ∧ ¬ f.CallsSucceed ∧
      (s'.actor = s.actor ∨ s'.actor = { s.actor with conn := s.actor.conn.commit })) ∨
    (r = .ok () ∧ s.actor.transactionDepth = 0 ∧ s'.actor = s.actor) ∨
    (r = .ok () ∧ s.actor.transactionDepth = 1 ∧ s'.actor = { s.actor with
      conn := s.actor.conn.commit.setAutocommit true, transactionDepth := 0 }) ∨
    (r = .ok () ∧ 2 ≤ s.actor.transactionDepth ∧ s'.actor = { s.actor with
      transactionDepth := s.actor.transactionDepth - 1 }) := by
  rw [handleCommit, Proc.get_bind_apply] at h
  by_cases h0 : s.actor.transactionDepth = 0
  · rw [if_pos h0] at h
    cases h
    exact Or.inr (Or.inl ⟨rfl, h0, rfl⟩)
  rw [if_neg h0] at h
  by_cases h1 : s.actor.transactionDepth = 1
  · rw [if_pos h1] at h
    obtain ⟨e, rfl, hl, rfl⟩ | ⟨-, h⟩ := lock_bind h
    · exact Or.inl ⟨e, rfl, h1, (fun hok ↦ by simp [hok.lock] at hl), Or.inl rfl⟩
    obtain ⟨e, rfl, hcommit, rfl⟩ | ⟨-, h⟩ := connectionCall_bind h
    · exact Or.inl ⟨e, rfl, h1, fun hok ↦ hcommit hok.commit, Or.inl rfl⟩
    obtain ⟨e, rfl, hauto, rfl⟩ | ⟨-, h⟩ := connectionCall_bind h
    · exact Or.inl ⟨e, rfl, h1, fun hok ↦ hauto (hok.setAutocommit true), Or.inr rfl⟩
    cases h
    exact Or.inr (Or.inr (Or.inl ⟨rfl, h1, rfl⟩))
  · rw [if_neg h1] at h
    cases h
    exact Or.inr (Or.inr (Or.inr ⟨rfl, by omega, rfl⟩))

/-- A rollback that fails keeps the depth; at the outermost level it may have undone what the
transaction wrote. -/
theorem handleRollback_cases {s s' : Session E} {r : Except Error Unit}
    (h : handleRollback E f s = (r, s')) :
    (∃ e, r = .error e ∧
      (s'.actor = s.actor ∨ s.actor.transactionDepth = 1 ∧
        s'.actor = { s.actor with conn := s.actor.conn.rollback }) ∧
      (f.CallsSucceed → 2 ≤ s.actor.transactionDepth ∧
        s.actor.conn.rollbackTo (savepointName (s.actor.transactionDepth - 1)) = none)) ∨
    (r = .ok () ∧ s.actor.transactionDepth = 0 ∧ s'.actor = s.actor) ∨
    (r = .ok () ∧ s.actor.transactionDepth = 1 ∧ s'.actor = { s.actor with
      conn := s.actor.conn.rollback.setAutocommit true, transactionDepth := 0 }) ∨
    (r = .ok () ∧ 2 ≤ s.actor.transactionDepth ∧ ∃ conn,
      s.actor.conn.rollbackTo (savepointName (s.actor.transactionDepth - 1)) = some conn ∧
      s'.actor = { s.actor with
        conn := conn, transactionDepth := s.actor.transactionDepth - 1 }) := by
  rw [handleRollback, Proc.get_bind_apply] at h
  by_cases h0 : s.actor.transactionDepth = 0
  · rw [if_pos h0] at h
    cases h
    exact Or.inr (Or.inl ⟨rfl, h0, rfl⟩)
  rw [if_neg h0] at h
  by_cases h1 : s.actor.transactionDepth = 1
  · rw [if_pos h1] at h
    obtain ⟨e, rfl, hl, rfl⟩ | ⟨-, h⟩ := lock_bind h
    · exact Or.inl ⟨e, rfl, Or.inl rfl, fun hok ↦ by simp [hok.lock] at hl⟩
    obtain ⟨e, rfl, hroll, rfl⟩ | ⟨-, h⟩ := connectionCall_bind h
    · exact Or.inl ⟨e, rfl, Or.inl rfl, fun hok ↦ absurd hok.rollback hroll⟩
    obtain ⟨e, rfl, hauto, rfl⟩ | ⟨-, h⟩ := connectionCall_bind h
    · exact Or.inl ⟨e, rfl, Or.inr ⟨h1, rfl⟩, fun hok ↦ absurd (hok.setAutocommit true) hauto⟩
    cases h
    exact Or.inr (Or.inr (Or.inl ⟨rfl, h1, rfl⟩))
  · rw [if_neg h1] at h
    have h2 : 2 ≤ s.actor.transactionDepth := by omega
    obtain ⟨e, rfl, hl, rfl⟩ | ⟨-, h⟩ := lock_bind h
    · exact Or.inl ⟨e, rfl, Or.inl rfl, fun hok ↦ by simp [hok.lock] at hl⟩
    obtain ⟨e, rfl, hactor, hroll⟩ | ⟨c, conn, s₁, hconn, hactor, h⟩ := savepointStatement_bind h
    · exact Or.inl ⟨e, rfl, Or.inl hactor, fun hok ↦ ⟨h2, hroll hok.transactionSql⟩⟩
    cases h
    exact Or.inr (Or.inr (Or.inr
      ⟨rfl, h2, conn, hconn, by rw [Session.setDepth_actor, hactor]⟩))

/-- What dropping the outermost level does to the connection. -/
def droppedOutermost (f : Faults) (conn : Connection C) : Connection C :=
  if f.lock then conn
  else ignored (f.setAutocommit true) (Store.setAutocommit true)
    (ignored f.rollback Store.rollback conn)

/-- What dropping a nested level does to the connection. -/
def droppedNested (f : Faults) (savepoint : String) (conn : Connection C) : Connection C :=
  if f.lock then conn
  else ignored f.transactionSql (fun conn ↦ (conn.rollbackTo savepoint).getD conn) conn

theorem droppedOutermost_of_callsSucceed (hf : f.CallsSucceed) (conn : Connection C) :
    droppedOutermost f conn = conn.rollback.setAutocommit true := by
  rw [droppedOutermost, hf.lock, hf.rollback, hf.setAutocommit]
  rfl

theorem droppedNested_of_calls (hl : f.lock = false) (hsql : f.transactionSql = none)
    (savepoint : String) (conn : Connection C) :
    droppedNested f savepoint conn = (conn.rollbackTo savepoint).getD conn := by
  rw [droppedNested, hl, hsql]
  rfl

theorem droppedNested_of_fault (h : ¬ (f.lock = false ∧ f.transactionSql = none))
    (savepoint : String) (conn : Connection C) : droppedNested f savepoint conn = conn := by
  rw [droppedNested]
  cases hl : f.lock with
  | true => rfl
  | false =>
    cases hsql : f.transactionSql with
    | none => exact absurd ⟨hl, hsql⟩ h
    | some e => rfl

/-- The savepoint is restored, or the connection is left as it was. -/
theorem droppedNested_cases (f : Faults) (savepoint : String) (conn : Connection C) :
    conn.rollbackTo savepoint = some (droppedNested f savepoint conn) ∨
      droppedNested f savepoint conn = conn := by
  by_cases hcalls : f.lock = false ∧ f.transactionSql = none
  · rw [droppedNested_of_calls hcalls.1 hcalls.2]
    cases conn.rollbackTo savepoint with
    | none => exact Or.inr rfl
    | some conn' => exact Or.inl rfl
  · exact Or.inr (droppedNested_of_fault hcalls savepoint conn)

/-- A savepoint statement whose error is ignored. -/
theorem savepointStatement_snd (sql : Sql) (effect : Connection C → Option (Connection C))
    (s : Session E) : (savepointStatement E f sql effect s).2.actor = { s.actor with
      conn := ignored f.transactionSql (fun conn ↦ (effect conn).getD conn) s.actor.conn } := by
  cases hrun : savepointStatement E f sql effect s with
  | mk r s' =>
    dsimp only
    obtain ⟨-, -, hactor, heffect⟩ | ⟨-, conn, -, hf, heffect, hactor⟩ :=
      savepointStatement_cases hrun
    · rw [hactor]
      cases hf : f.transactionSql with
      | some e => rfl
      | none => simp only [ignored, heffect hf, Option.getD_none]
    · rw [hactor, hf]
      simp only [ignored, heffect, Option.getD_some]

/-- The rollback of a dropped transaction always takes the depth down. -/
theorem handleStartRollback_snd (s : Session E) : (handleStartRollback E f s).2.actor =
    match s.actor.transactionDepth with
    | 0 => s.actor
    | 1 => { s.actor with conn := droppedOutermost f s.actor.conn, transactionDepth := 0 }
    | d + 2 => { s.actor with
        conn := droppedNested f (savepointName (d + 1)) s.actor.conn,
        transactionDepth := d + 1 } := by
  rw [handleStartRollback, Proc.get_bind_apply]
  rcases hd : s.actor.transactionDepth with _ | _ | d
  · rw [if_pos rfl]
    rfl
  · rw [if_neg (by simp), if_pos rfl, droppedOutermost]
    by_cases hl : f.lock = true
    · rw [if_pos hl, if_pos hl]
      rfl
    · rw [if_neg hl, if_neg hl, Proc.ignore_bind_apply, Proc.ignore_bind_apply, rollback,
        connectionCall_snd, setAutocommit, connectionCall_snd]
      rfl
  · have hname : d + 1 + 1 - 1 = d + 1 := rfl
    rw [if_neg (by omega), if_neg (by omega), hname]
    show _ = { s.actor with
      conn := droppedNested f (savepointName (d + 1)) s.actor.conn, transactionDepth := d + 1 }
    rw [droppedNested]
    by_cases hl : f.lock = true
    · rw [if_pos hl, if_pos hl]
      rfl
    · rw [if_neg hl, if_neg hl, Proc.ignore_bind_apply, Proc.modify_apply, Session.setDepth_actor,
        executeOnConnection, savepointStatement_snd]

/-! ## Commands -/

namespace ConnectionActor

variable (actor : ConnectionActor E) (f : Faults) (room : Option ℕ)

theorem step_begin_cases :
    (actor.step ⟨.begin, f, room⟩ = actor) ∨
    (actor.transactionDepth = 0 ∧ actor.step ⟨.begin, f, room⟩ = { actor with
      conn := actor.conn.setAutocommit false, transactionDepth := 1 }) ∨
    (1 ≤ actor.transactionDepth ∧ ∃ conn,
      actor.conn.save (savepointName actor.transactionDepth) = some conn ∧
      actor.step ⟨.begin, f, room⟩ = { actor with
        conn := conn, transactionDepth := actor.transactionDepth + 1 }) := by
  have hrun := Prod.eta (handleBegin E f ⟨actor, ⟨none, []⟩⟩)
  obtain ⟨e, -, hactor, -⟩ | ⟨-, h0, hactor⟩ | ⟨-, hne, conn, hsave, hactor⟩ :=
    handleBegin_cases hrun.symm
  · exact Or.inl hactor
  · exact Or.inr (Or.inl ⟨h0, hactor⟩)
  · exact Or.inr (Or.inr ⟨Nat.one_le_iff_ne_zero.2 hne, conn, hsave, hactor⟩)

theorem step_commit_cases :
    (actor.transactionDepth = 1 ∧ ¬ f.CallsSucceed ∧ (actor.step ⟨.commit, f, room⟩ = actor ∨
      actor.step ⟨.commit, f, room⟩ = { actor with conn := actor.conn.commit })) ∨
    (actor.transactionDepth = 0 ∧ actor.step ⟨.commit, f, room⟩ = actor) ∨
    (actor.transactionDepth = 1 ∧ actor.step ⟨.commit, f, room⟩ = { actor with
      conn := actor.conn.commit.setAutocommit true, transactionDepth := 0 }) ∨
    (2 ≤ actor.transactionDepth ∧ actor.step ⟨.commit, f, room⟩ = { actor with
      transactionDepth := actor.transactionDepth - 1 }) := by
  have hrun := Prod.eta (handleCommit E f ⟨actor, ⟨none, []⟩⟩)
  obtain ⟨e, -, h1, hfails, hactor⟩ | ⟨-, h0, hactor⟩ | ⟨-, h1, hactor⟩ | ⟨-, h2, hactor⟩ :=
    handleCommit_cases hrun.symm
  · exact Or.inl ⟨h1, hfails, hactor⟩
  · exact Or.inr (Or.inl ⟨h0, hactor⟩)
  · exact Or.inr (Or.inr (Or.inl ⟨h1, hactor⟩))
  · exact Or.inr (Or.inr (Or.inr ⟨h2, hactor⟩))

theorem step_rollback_cases :
    (actor.step ⟨.rollback, f, room⟩ = actor) ∨
    (actor.transactionDepth = 1 ∧ (actor.step ⟨.rollback, f, room⟩ = { actor with
        conn := actor.conn.rollback } ∨
      actor.step ⟨.rollback, f, room⟩ = { actor with
        conn := actor.conn.rollback.setAutocommit true, transactionDepth := 0 })) ∨
    (2 ≤ actor.transactionDepth ∧ ∃ conn,
      actor.conn.rollbackTo (savepointName (actor.transactionDepth - 1)) = some conn ∧
      actor.step ⟨.rollback, f, room⟩ = { actor with
        conn := conn, transactionDepth := actor.transactionDepth - 1 }) := by
  have hrun := Prod.eta (handleRollback E f ⟨actor, ⟨none, []⟩⟩)
  obtain ⟨e, -, hactor | ⟨h1, hactor⟩, -⟩ | ⟨-, -, hactor⟩ | ⟨-, h1, hactor⟩ |
    ⟨-, h2, conn, hundo, hactor⟩ := handleRollback_cases hrun.symm
  · exact Or.inl hactor
  · exact Or.inr (Or.inl ⟨h1, Or.inl hactor⟩)
  · exact Or.inl hactor
  · exact Or.inr (Or.inl ⟨h1, Or.inr hactor⟩)
  · exact Or.inr (Or.inr ⟨h2, conn, hundo, hactor⟩)

theorem step_startRollback : actor.step ⟨.startRollback, f, room⟩ =
    match actor.transactionDepth with
    | 0 => actor
    | 1 => { actor with conn := droppedOutermost f actor.conn, transactionDepth := 0 }
    | d + 2 => { actor with
        conn := droppedNested f (savepointName (d + 1)) actor.conn, transactionDepth := d + 1 } :=
  handleStartRollback_snd ⟨actor, ⟨none, []⟩⟩

end ConnectionActor

end MssqlOdbc
