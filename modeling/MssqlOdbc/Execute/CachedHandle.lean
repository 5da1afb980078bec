import MssqlOdbc.Lib.Run
import MssqlOdbc.Execute.Delivery

/-!
# The handles in the statement cache

A cached handle outlives the command that executes it, so a walk that stops before the end of a
batch must not leave anything on it.  While a result set is streamed the cursor guard takes care of
that: wherever the stream stops, the guard is dropped and the handle is closed.  A walk that stops
*between* result sets has only the bare handle, and whatever is unread stays on it.

`Strands` says when that happens, in terms of the batch and of how long the receiver stays.
`driveResultSets_strands` shows it to be exact, for every batch and every moment at which the
receiver goes, and `cached_handles_idle_iff` carries it to every run: the cached handles are idle at
every command boundary exactly if no command of the run strands a handle in the cache.
-/

set_option autoImplicit false

namespace MssqlOdbc

variable {C κ A V : Type}

section Strands

variable (E : Env C κ A V) (settings : MssqlBufferSettings)

/-! ## Passing a result -/

/-- The walk gets past a result: the result can be read to its end, and the receiver stays for its
row count or for its rows.  The empty count behind the rows need not be taken. -/
def Result.Passes (room : Option ℕ) (result : Result κ) : Prop :=
  result.Readable E settings ∧ ∀ k, room = .some k →
    (if result.columns = [] then 1 else (result.reading E settings).rows.items.length) ≤ k

/-- The room left behind a result. -/
def Result.roomAfter (room : Option ℕ) (result : Result κ) : Option ℕ :=
  room.map (· - (result.items E settings).length)

/-- From this result on the walk stops on a bare handle that is not idle.  The flag says whether it
reports an error. -/
inductive Strands : Option ℕ → Result κ → List (Reply κ) → Bool → Prop
  /-- The column count cannot be read. -/
  | columnCount {room : Option ℕ} {result : Result κ} {unread : List (Reply κ)} {e : OdbcError}
      (hcols : result.numColsError = some e) (hbusy : result.columns ≠ [] ∨ unread ≠ []) :
      Strands room result unread true
  /-- The row count cannot be read. -/
  | rowCount {room : Option ℕ} {result : Result κ} {unread : List (Reply κ)} {e : OdbcError}
      (hcols : result.numColsError = none) (hempty : result.columns = [])
      (hcount : result.rowCount = .error e) (hunread : unread ≠ []) :
      Strands room result unread true
  /-- The receiver is gone when a row count is due. -/
  | receiverGone {result : Result κ} {unread : List (Reply κ)} {rowsAffected : ℤ}
      (hcols : result.numColsError = none) (hempty : result.columns = [])
      (hcount : result.rowCount = .ok rowsAffected) (hunread : unread ≠ []) :
      Strands (some 0) result unread false
  /-- The advance fails. -/
  | advance {room : Option ℕ} {result : Result κ} {unread : List (Reply κ)}
      (hpasses : result.Passes E settings room) (hadvance : advanceError result unread ≠ none)
      (hunread : leftUnread result unread ≠ []) : Strands room result unread true
  /-- A later result. -/
  | next {room : Option ℕ} {result next : Result κ} {info failed : Bool}
      {unread : List (Reply κ)} (hpasses : result.Passes E settings room)
      (hfetch : result.fetchError = none)
      (hnext : Strands (result.roomAfter E settings room) next unread failed) :
      Strands room result (.result info next :: unread) failed

/-- The batch strands the handle it was executed on. -/
def Batch.Strands (batch : Batch κ) (room : Option ℕ) (failed : Bool) : Prop :=
  match batch.head with
  | .error _ => batch.rest ≠ [] ∧ failed = true
  | .ok result => MssqlOdbc.Strands E settings room result batch.rest failed

end Strands

variable {E : Env C κ A V} {settings : MssqlBufferSettings}

/-! ## Sending to a receiver that goes -/

namespace Wire

theorem send_fst (item : ExecuteResult V) (wire : Wire A V) :
    (wire.send item).1 = true ↔ wire.room ≠ some 0 := by
  rcases wire with ⟨_ | _ | k, trace⟩ <;> simp [send]

theorem send_room (item : ExecuteResult V) (wire : Wire A V) :
    (wire.send item).2.room = wire.room.map (· - 1) := by
  rcases wire with ⟨_ | _ | k, trace⟩ <;> rfl

theorem sendRows_fst (rows : List (MssqlRow V)) (wire : Wire A V) :
    (wire.sendRows rows).1 = true ↔ ∀ k, wire.room = some k → rows.length ≤ k := by
  induction rows generalizing wire with
  | nil => simp [sendRows]
  | cons row rows ih =>
    rcases wire with ⟨_ | _ | k, trace⟩
    · rw [sendRows_open]
      simp
    · simp [sendRows_cons, send]
    · rw [sendRows_cons]
      exact (ih _).trans (by simp)

/-- Rows that are all taken use up the room. -/
theorem sendRows_room {rows : List (MssqlRow V)} {wire : Wire A V}
    (h : (wire.sendRows rows).1 = true) :
    (wire.sendRows rows).2.room = wire.room.map (· - rows.length) := by
  induction rows generalizing wire with
  | nil => rcases wire with ⟨_ | k, trace⟩ <;> rfl
  | cons row rows ih =>
    rcases wire with ⟨_ | _ | k, trace⟩
    · rw [sendRows_open]
      rfl
    · simp [sendRows_cons, send] at h
    · rw [sendRows_cons] at h ⊢
      refine (ih h).trans ?_
      simp

end Wire

/-- A result set is read to its end exactly if the receiver stays for all the rows and no call
fails. -/
theorem Reading.send_fst (reading : Reading V) (wire : Wire A V) :
    (reading.send wire).1 = .ok true ↔ reading.rows.error = none ∧ reading.unbound = none ∧
      ∀ k, wire.room = some k → reading.rows.items.length ≤ k := by
  rw [← Wire.sendRows_fst, send]
  rcases wire.sendRows reading.rows.items with ⟨_ | _, wire'⟩
  · cases reading.abandoned <;> simp [result]
  · cases reading.rows.error with
    | some e => simp
    | none => cases reading.unbound <;> simp [result]

theorem Reading.send_room {reading : Reading V} {wire : Wire A V}
    (h : (reading.send wire).1 = .ok true) :
    (reading.send wire).2.room = wire.room.map (· - (reading.rows.items.length + 1)) := by
  obtain ⟨herror, -, hroom⟩ := (reading.send_fst wire).1 h
  have hrows := (Wire.sendRows_fst reading.rows.items wire).2 hroom
  have hafter := Wire.sendRows_room hrows
  rw [send]
  rcases hsend : wire.sendRows reading.rows.items with ⟨_ | _, wire'⟩
  · rw [hsend] at hrows; cases hrows
  · rw [hsend] at hafter
    simp only [herror, Wire.send_room] at hafter ⊢
    rw [hafter, Option.map_map]
    congr 1

/-! ## The visit of a result -/

variable (E settings) in
theorem visitResult_columnCount {result : Result κ} {e : OdbcError}
    (h : result.numColsError = some e) (unread : List (Reply κ)) (wire : Wire A V) :
    ∃ e', visitResult E settings ⟨some result, unread⟩ wire =
      (some (.error e'), ⟨some result, unread⟩, wire) := by
  have hcols : (StmtHandle.mk (some result) unread).result.numResultCols = .error e :=
    Result.numResultCols_of_some h
  rw [visitResult, hcols]
  exact ⟨_, rfl⟩

theorem visitResult_rowCount {result : Result κ} (h : result.numColsError = none)
    (hempty : result.columns = []) (unread : List (Reply κ)) (wire : Wire A V) :
    visitResult E settings ⟨some result, unread⟩ wire =
      match result.rowCount with
      | .error e => (some (.error (databaseError "failed to read ODBC row count" e)),
          ⟨some result, unread⟩, wire)
      | .ok rowsAffected =>
        match wire.send (.ok (.inl ⟨(max rowsAffected 0).toNat⟩)) with
        | (false, wire) => (some (.ok ()), ⟨some result, unread⟩, wire)
        | (true, wire) => (none, ⟨some result, unread⟩, wire) := by
  have hcols : (StmtHandle.mk (some result) unread).result.numResultCols = .ok 0 := by
    show result.numResultCols = .ok 0
    rw [Result.numResultCols_of_none h, hempty]
    rfl
  rw [visitResult, hcols]
  rfl

theorem visitResult_resultSet {result : Result κ} (h : result.numColsError = none)
    (hempty : result.columns ≠ []) (unread : List (Reply κ)) (wire : Wire A V) :
    visitResult E settings ⟨some result, unread⟩ wire =
      match (result.reading E settings).send wire with
      | (.error e, wire) => (some (.error e), .closed, wire)
      | (.ok false, wire) => (some (.ok ()), .closed, wire)
      | (.ok true, wire) => (none, ⟨some result, unread⟩, wire) := by
  obtain ⟨column, columns, hcolumns⟩ := List.exists_cons_of_ne_nil hempty
  have hcols : (StmtHandle.mk (some result) unread).result.numResultCols =
      .ok (columns.length + 1) := by
    show result.numResultCols = .ok (columns.length + 1)
    rw [Result.numResultCols_of_none h, hcolumns]
    rfl
  rw [visitResult, hcols]
  simp only [streamOneResultSet_eq]
  rfl

/-- **Passing a result** leaves the handle where it is and takes the items out of the room. -/
theorem visitResult_passes {result : Result κ} {wire : Wire A V}
    (h : result.Passes E settings wire.room) (unread : List (Reply κ)) :
    ∃ wire', visitResult E settings ⟨some result, unread⟩ wire =
        (none, ⟨some result, unread⟩, wire') ∧
      wire'.room = result.roomAfter E settings wire.room := by
  obtain ⟨⟨hcols, hread⟩, hroom⟩ := h
  rw [Result.roomAfter, Result.items]
  by_cases hempty : result.columns = []
  · rw [if_pos hempty] at hread
    obtain ⟨rowsAffected, hcount⟩ := hread
    simp only [if_pos hempty] at hroom ⊢
    have hsent : (wire.send (.ok (.inl ⟨(max rowsAffected 0).toNat⟩))).1 = true := by
      rw [Wire.send_fst]
      intro hzero
      exact absurd (hroom 0 hzero) (by omega)
    have hafter := Wire.send_room (.ok (.inl ⟨(max rowsAffected 0).toNat⟩)) wire
    rw [visitResult_rowCount hcols hempty, hcount]
    rcases hsend : wire.send (.ok (.inl ⟨(max rowsAffected 0).toNat⟩)) with ⟨_ | _, wire'⟩
    · rw [hsend] at hsent; cases hsent
    · rw [hsend] at hafter
      exact ⟨wire', by simp only [hsend], hafter⟩
  · rw [if_neg hempty] at hread
    simp only [if_neg hempty] at hroom ⊢
    have hsent : ((result.reading E settings).send wire).1 = .ok true :=
      (Reading.send_fst _ wire).2 ⟨hread.1, hread.2, hroom⟩
    have hafter := Reading.send_room hsent
    rw [visitResult_resultSet hcols hempty]
    rcases hsend : (result.reading E settings).send wire with ⟨e | _ | _, wire'⟩
    · rw [hsend] at hsent; cases hsent
    · rw [hsend] at hsent; cases hsent
    · rw [hsend] at hafter
      refine ⟨wire', rfl, ?_⟩
      rw [hafter, List.length_append, List.length_map]
      rfl

/-! ## Where a handle is stranded -/

theorem idle_bare_iff {result : Result κ} {unread : List (Reply κ)} :
    (StmtHandle.mk (some result) unread).Idle ↔ result.columns = [] ∧ unread = [] := by
  rw [StmtHandle.Idle, StmtHandle.cursorOpen, StmtHandle.result, Option.getD_some]
  simp

theorem idle_left_iff {unread : List (Reply κ)} :
    (StmtHandle.mk none unread).Idle ↔ unread = [] := by
  rw [StmtHandle.Idle]
  exact and_iff_right rfl

theorem Result.not_passes_gone {result : Result κ} (hempty : result.columns = []) :
    ¬ result.Passes E settings (some 0) := by
  rintro ⟨-, hroom⟩
  have hone := hroom 0 rfl
  rw [if_pos hempty] at hone
  omega

/-- Behind a result that is passed, the handle is stranded by the advance or further on. -/
theorem strands_iff_of_passes {room : Option ℕ} {result : Result κ} {unread : List (Reply κ)}
    {failed : Bool} (hpasses : result.Passes E settings room) :
    Strands E settings room result unread failed ↔
      (advanceError result unread ≠ none ∧ leftUnread result unread ≠ [] ∧ failed = true) ∨
        ∃ info next rest, unread = .result info next :: rest ∧ result.fetchError = none ∧
          Strands E settings (result.roomAfter E settings room) next rest failed := by
  constructor
  · intro h
    cases h with
    | columnCount hcols => rw [hpasses.1.1] at hcols; cases hcols
    | rowCount hcols hempty hcount =>
      have hread := hpasses.1.2
      rw [if_pos hempty, hcount] at hread
      obtain ⟨rowsAffected, hread⟩ := hread
      cases hread
    | receiverGone hcols hempty => exact absurd hpasses (Result.not_passes_gone hempty)
    | advance _ hadvance hunread => exact Or.inl ⟨hadvance, hunread, rfl⟩
    | next _ hfetch hnext => exact Or.inr ⟨_, _, _, rfl, hfetch, hnext⟩
  · rintro (⟨hadvance, hunread, rfl⟩ | ⟨info, next, rest, rfl, hfetch, hnext⟩)
    · exact .advance hpasses hadvance hunread
    · exact .next hpasses hfetch hnext

/-- At a result that is not passed, the handle is stranded unless a cursor guards it. -/
theorem strands_iff_of_not_passes {room : Option ℕ} {result : Result κ} {unread : List (Reply κ)}
    {failed : Bool} (hpasses : ¬ result.Passes E settings room) :
    Strands E settings room result unread failed ↔
      (result.numColsError ≠ none ∧ (result.columns ≠ [] ∨ unread ≠ []) ∧ failed = true) ∨
        (result.numColsError = none ∧ result.columns = [] ∧ unread ≠ [] ∧
          failed = !result.rowCount.isOk) := by
  constructor
  · intro h
    cases h with
    | columnCount hcols hbusy => exact Or.inl ⟨by rw [hcols]; simp, hbusy, rfl⟩
    | rowCount hcols hempty hcount hunread =>
      exact Or.inr ⟨hcols, hempty, hunread, by rw [hcount]; rfl⟩
    | receiverGone hcols hempty hcount hunread =>
      exact Or.inr ⟨hcols, hempty, hunread, by rw [hcount]; rfl⟩
    | advance hpasses' => exact absurd hpasses' hpasses
    | next hpasses' => exact absurd hpasses' hpasses
  · rintro (⟨hcols, hbusy, rfl⟩ | ⟨hcols, hempty, hunread, rfl⟩)
    · obtain ⟨e, hcols⟩ := Option.ne_none_iff_exists'.1 hcols
      exact .columnCount hcols hbusy
    · cases hcount : result.rowCount with
      | error e => exact .rowCount hcols hempty hcount hunread
      | ok rowsAffected =>
        -- the count was read, so it is the receiver that is missing
        obtain rfl : room = some 0 := by
          by_contra hroom
          refine hpasses ⟨⟨hcols, ?_⟩, fun k hk ↦ ?_⟩
          · rw [if_pos hempty]
            exact ⟨rowsAffected, hcount⟩
          · rw [if_pos hempty]
            subst hk
            exact Nat.pos_of_ne_zero fun hzero ↦ hroom (by rw [hzero])
        exact .receiverGone hcols hempty hcount hunread

/-- Where the walk stops at a result that is not passed. -/
theorem visitResult_not_passes {result : Result κ} {wire : Wire A V}
    (hpasses : ¬ result.Passes E settings wire.room) (unread : List (Reply κ)) :
    ∃ outcome stmt wire', visitResult E settings ⟨some result, unread⟩ wire =
        (some outcome, stmt, wire') ∧
      ((result.numColsError ≠ none ∧ stmt = ⟨some result, unread⟩ ∧ outcome.isOk = false) ∨
        (result.numColsError = none ∧ result.columns = [] ∧ stmt = ⟨some result, unread⟩ ∧
          outcome.isOk = result.rowCount.isOk) ∨
        (result.numColsError = none ∧ result.columns ≠ [] ∧ stmt = .closed)) := by
  cases hcols : result.numColsError with
  | some e =>
    obtain ⟨e', hvisit⟩ := visitResult_columnCount E settings hcols unread wire
    exact ⟨_, _, _, hvisit, Or.inl ⟨by simp, rfl, rfl⟩⟩
  | none =>
    by_cases hempty : result.columns = []
    · cases hcount : result.rowCount with
      | error e =>
        rw [visitResult_rowCount hcols hempty, hcount]
        exact ⟨_, _, _, rfl, Or.inr (Or.inl ⟨rfl, hempty, rfl, rfl⟩)⟩
      | ok rowsAffected =>
        rw [visitResult_rowCount hcols hempty, hcount]
        rcases hsend : wire.send (.ok (.inl ⟨(max rowsAffected 0).toNat⟩)) with ⟨_ | _, wire'⟩
        · exact ⟨.ok (), _, wire', by simp only [hsend],
            Or.inr (Or.inl ⟨rfl, hempty, rfl, rfl⟩)⟩
        · have hroom := (Wire.send_fst (.ok (.inl ⟨(max rowsAffected 0).toNat⟩)) wire).1
            (by rw [hsend])
          refine absurd ⟨⟨hcols, ?_⟩, fun k hk ↦ ?_⟩ hpasses
          · rw [if_pos hempty]
            exact ⟨rowsAffected, hcount⟩
          · rw [if_pos hempty]
            exact Nat.pos_of_ne_zero fun hzero ↦ hroom (by rw [hk, hzero])
    · rw [visitResult_resultSet hcols hempty]
      rcases hsend : (result.reading E settings).send wire with ⟨e | _ | _, wire'⟩
      · exact ⟨_, _, _, rfl, Or.inr (Or.inr ⟨rfl, hempty, rfl⟩)⟩
      · exact ⟨_, _, _, rfl, Or.inr (Or.inr ⟨rfl, hempty, rfl⟩)⟩
      · obtain ⟨hrows, hunbound, hroom⟩ :=
          (Reading.send_fst (result.reading E settings) wire).1 (by rw [hsend])
        refine absurd ⟨⟨hcols, ?_⟩, fun k hk ↦ ?_⟩ hpasses
        · rw [if_neg hempty]
          exact ⟨hrows, hunbound⟩
        · rw [if_neg hempty]
          exact hroom k hk

/-- **`Strands` is exact.**  By induction on what is unread, following the walk: it stops at the
result it is on, or its advance fails, or it goes on from the next result. -/
theorem driveResultSets_strands (result : Result κ) (unread : List (Reply κ)) (wire : Wire A V)
    (failed : Bool) :
    let walked := driveResultSets E settings ⟨some result, unread⟩ wire
    Strands E settings wire.room result unread failed ↔
      ¬ walked.stmt.Idle ∧ walked.outcome.isOk = !failed := by
  induction hn : unread.length using Nat.strongRecOn generalizing result unread wire with
  | ind n ih =>
  by_cases hpasses : result.Passes E settings wire.room
  · obtain ⟨wire', hvisit, hroom⟩ := visitResult_passes hpasses unread
    rw [strands_iff_of_passes hpasses]
    obtain ⟨e, status, hadvance, -, hdrive⟩ | ⟨hadvance, rfl, hdrive⟩ |
      ⟨info, next, rest, status, hadvance, rfl, -, hdrive⟩ := driveResultSets_next hvisit
    · simp only [hdrive, idle_left_iff]
      constructor
      · rintro (⟨-, hunread, rfl⟩ | ⟨info, next, rest, rfl, hfetch, -⟩)
        · exact ⟨hunread, rfl⟩
        · rw [advanceError_result hfetch] at hadvance
          cases hadvance
      · rintro ⟨hunread, hfailed⟩
        refine Or.inl ⟨by rw [hadvance]; simp, hunread, ?_⟩
        cases failed with
        | true => rfl
        | false => cases hfailed
    · simp only [hdrive]
      constructor
      · rintro (⟨hne, -, -⟩ | ⟨info, next, rest, hnil, -, -⟩)
        · exact absurd hadvance hne
        · cases hnil
      · rintro ⟨hbusy, -⟩
        exact absurd StmtHandle.idle_closed hbusy
    · have hnext := ih rest.length (by rw [← hn]; simp) next rest
        (wire'.log (.moreResults status)) rfl
      rw [show (wire'.log (.moreResults status)).room = result.roomAfter E settings wire.room from
        hroom] at hnext
      simp only [hdrive]
      refine Iff.trans ?_ hnext
      constructor
      · rintro (⟨hne, -, -⟩ | ⟨info', next', rest', hcons, -, hstrands⟩)
        · exact absurd hadvance hne
        · cases hcons
          exact hstrands
      · intro hstrands
        refine Or.inr ⟨info, next, rest, rfl, ?_, hstrands⟩
        cases hfetch : result.fetchError with
        | none => rfl
        | some e => rw [advanceError_fetch hfetch] at hadvance; cases hadvance
  · obtain ⟨outcome, stmt, wire', hvisit, hcases⟩ := visitResult_not_passes hpasses unread
    rw [strands_iff_of_not_passes hpasses, driveResultSets_eq, hvisit]
    simp only
    obtain ⟨hcols, rfl, hok⟩ | ⟨hcols, hempty, rfl, hok⟩ | ⟨hcols, hempty, rfl⟩ := hcases
    · have hbusy : ¬ (result.columns = [] ∧ unread = []) ↔ result.columns ≠ [] ∨ unread ≠ [] :=
        not_and_or
      rw [idle_bare_iff, hok, hbusy]
      simp [hcols]
    · rw [idle_bare_iff, hok]
      cases result.rowCount.isOk <;> cases failed <;> simp [hcols, hempty]
    · simp [hcols, hempty, StmtHandle.idle_closed]

theorem walkBatch_strands (context : String) (batch : Batch κ) (wire : Wire A V) (failed : Bool) :
    let walked := walkBatch E settings context batch wire
    batch.Strands E settings wire.room failed ↔
      ¬ walked.stmt.Idle ∧ walked.outcome.isOk = !failed := by
  rw [Batch.Strands, walkBatch]
  cases hhead : batch.head with
  | error e =>
    have hexecuted : batch.executed = (.error e, ⟨none, batch.rest⟩) := by
      rw [Batch.executed, hhead]
    simp only [hexecuted, idle_left_iff]
    cases failed <;> simp [Except.isOk, Except.toBool]
  | ok result =>
    cases hcols : result.numColsError with
    | some e =>
      have hexecuted : batch.executed = (.error e, ⟨some result, batch.rest⟩) := by
        rw [Batch.executed, hhead]
        simp only [Result.numResultCols_of_some hcols]
      have hpasses : ¬ result.Passes E settings wire.room := by
        rintro ⟨⟨hnone, -⟩, -⟩
        rw [hcols] at hnone
        cases hnone
      simp only [hexecuted, strands_iff_of_not_passes hpasses, idle_bare_iff, hcols]
      cases failed <;> simp [Except.isOk, Except.toBool, imp_iff_not_or]
    | none =>
      have hfirst : batch.first = .ok result := by
        rw [Batch.first, hhead]
        simp only [bind, Except.bind, hcols]
        rfl
      obtain ⟨cursor, stmt, hexecuted, hbare⟩ := Batch.executed_eq_ok hfirst
      simp only [hexecuted, hbare]
      exact driveResultSets_strands result batch.rest wire failed

section Walk

variable {s : Session E} {context sql : String} {parameters : List A}

theorem Session.walk_strands (failed : Bool) :
    (E.exec sql parameters s.actor.conn.working).1.Strands E s.actor.bufferSettings s.wire.room
        failed ↔
      ¬ (s.walk context sql parameters).stmt.Idle ∧
        (s.walk context sql parameters).outcome.isOk = !failed :=
  walkBatch_strands context _ (s.execute sql parameters).wire failed

/-- A walk leaves its handle idle unless it strands it, with an error or without. -/
theorem Session.walk_idle_iff : (s.walk context sql parameters).stmt.Idle ↔
    ∀ failed, ¬ (E.exec sql parameters s.actor.conn.working).1.Strands E s.actor.bufferSettings
      s.wire.room failed := by
  constructor
  · intro hwalked failed hbad
    exact ((s.walk_strands failed).1 hbad).1 hwalked
  · intro hgood
    by_contra hbusy
    exact hgood _ ((s.walk_strands _).2 ⟨hbusy, (Bool.not_not _).symm⟩)

theorem Session.walk_idle_of_ok_iff :
    ((s.walk context sql parameters).outcome.isOk = true →
      (s.walk context sql parameters).stmt.Idle) ↔
    ¬ (E.exec sql parameters s.actor.conn.working).1.Strands E s.actor.bufferSettings s.wire.room
      false := by
  constructor
  · intro hwalked hbad
    obtain ⟨hbusy, hok⟩ := (s.walk_strands false).1 hbad
    exact hbusy (hwalked hok)
  · intro hgood hok
    by_contra hbusy
    exact hgood ((s.walk_strands false).2 ⟨hbusy, hok⟩)

end Walk

/-! ## The cache -/

/-- Every cached handle is idle. -/
def CacheIdle (cache : E.cache.State) : Prop :=
  E.cache.All (fun _ prepared ↦ prepared.stmt.Idle) cache

/-- The cache stays idle unless the walk strands the handle of a hit, or a handle that is about to
be inserted. -/
theorem CacheAfter.idle_iff {cache cache' : E.cache.State} {useCache : Bool} {sql : String}
    {batch : Batch κ} {walked : Walked κ A V}
    (h : CacheAfter cache useCache sql batch walked cache') (hidle : CacheIdle cache) :
    CacheIdle cache' ↔ (useCache = true →
      match E.cache.get cache sql with
      | some _ => walked.stmt.Idle
      | none => E.cache.isEnabled cache = true → batch.startsBare = true →
        walked.outcome.isOk = true → walked.stmt.Idle) := by
  cases h with
  | oneShot h => simp [h, hidle]
  | hit h hget =>
    have hfound := (CacheImpl.get_touch sql sql).trans hget
    simp only [h, hget, true_imp_iff]
    constructor
    · intro hall
      exact hall sql _ (E.cache.get_put_self _ sql _ _ hfound)
    · intro hwalked
      exact CacheImpl.All.put (hidle.touch sql) hfound hwalked
  | miss h hget info =>
    simp only [h, hget, true_imp_iff]
    rw [cacheWalked]
    cases houtcome : walked.outcome with
    | error e =>
      refine iff_of_true hidle fun _ _ hok ↦ ?_
      cases hok
    | ok u =>
      by_cases hbare : batch.startsBare = true
      · simp only [if_pos hbare]
        constructor
        · intro hall henabled _ _
          refine hall sql ⟨sql, info, walked.stmt⟩ ?_
          rw [E.cache.get_insert_self, if_pos henabled]
        · intro hwalked
          exact CacheImpl.All.insert hidle fun henabled ↦ hwalked henabled hbare rfl
      · simp only [if_neg hbare]
        exact iff_of_true hidle fun _ hbare' ↦ absurd hbare' hbare

namespace ConnectionActor

/-- The command strands no handle in the cache: the walk of a cached statement leaves the handle
idle, however it ends, and so does the walk of a statement that is cached afterwards, if it ends
without an error. -/
def LeavesIdle (actor : ConnectionActor E) (job : Job A) : Prop :=
  match job.command with
  | .execute sql args persistent =>
    let batch := (E.exec sql (args.getD []) actor.conn.working).1
    (⟨actor, ⟨job.room, []⟩⟩ : Session E).Executes job.faults sql args persistent →
      usesCache args persistent = true →
      match E.cache.get actor.stmtCache sql with
      | some _ => ∀ failed, ¬ batch.Strands E actor.bufferSettings job.room failed
      | none => E.cache.isEnabled actor.stmtCache = true → batch.startsBare = true →
        ¬ batch.Strands E actor.bufferSettings job.room false
  | _ => True

theorem step_cacheIdle_iff {actor : ConnectionActor E} (hkeyed : CacheKeyed actor.stmtCache)
    (hidle : CacheIdle actor.stmtCache) (job : Job A) :
    CacheIdle (actor.step job).stmtCache ↔ actor.LeavesIdle job := by
  by_cases hcache : job.command.usesStmtCache = false
  · rw [step_stmtCache hcache, LeavesIdle]
    refine iff_of_true hidle ?_
    split
    · rename_i hcommand
      rw [hcommand] at hcache
      cases hcache
    · trivial
  obtain ⟨command, f, room⟩ := job
  cases command with
  | execute sql args persistent =>
    rw [LeavesIdle]
    obtain ⟨hnot, cache, hlookup, hstep⟩ | ⟨hexecutes, context, cache, hafter, hstep⟩ :=
      step_execute_cases hkeyed f sql args persistent room
    · rw [hstep]
      refine iff_of_true ?_ fun hexecutes ↦ absurd hexecutes hnot
      obtain rfl | rfl := hlookup
      · exact hidle
      · exact hidle.touch sql
    · rw [hstep]
      refine (hafter.idle_iff hidle).trans ?_
      simp only [hexecutes, true_imp_iff]
      refine imp_congr_right fun _ ↦ ?_
      cases E.cache.get actor.stmtCache sql with
      | some prepared => exact Session.walk_idle_iff
      | none => exact imp_congr_right fun _ ↦ imp_congr_right fun _ ↦ Session.walk_idle_of_ok_iff
  | prepare sql =>
    obtain ⟨cache, hstep, hcases⟩ := actor.step_prepare sql f room
    rw [hstep]
    refine iff_of_true ?_ trivial
    obtain rfl | ⟨info, rfl⟩ := hcases
    · exact hidle.touch sql
    · exact hidle.insert fun _ ↦ StmtHandle.idle_closed
  | clearStatementCache => exact iff_of_true (CacheImpl.all_clear _) trivial
  | _ => exact absurd rfl hcache

end ConnectionActor

/-! ## Runs -/

/-- The invariant of the runs in which no handle is stranded. -/
structure CachedIdle (actor : ConnectionActor E) : Prop where
  keyed : CacheKeyed actor.stmtCache
  idle : CacheIdle actor.stmtCache

theorem CachedIdle.connect (E : Env C κ A V) (contents : C) (capacity : ℕ)
    (settings : MssqlBufferSettings) :
    CachedIdle (ConnectionActor.connect E contents capacity settings) :=
  ⟨CacheImpl.all_new capacity, CacheImpl.all_new capacity⟩

theorem CachedIdle.step {actor : ConnectionActor E} (h : CachedIdle actor) {job : Job A}
    (hjob : actor.LeavesIdle job) : CachedIdle (actor.step job) :=
  ⟨ConnectionActor.step_cacheKeyed h.keyed job,
    (ConnectionActor.step_cacheIdle_iff h.keyed h.idle job).2 hjob⟩

theorem CachedIdle.allSteps_iff {actor : ConnectionActor E} (h : CachedIdle actor)
    (jobs : List (Job A)) :
    Run.AllSteps ConnectionActor.step (fun actor job ↦ CacheIdle (actor.step job).stmtCache) actor
        jobs ↔
      Run.AllSteps ConnectionActor.step ConnectionActor.LeavesIdle actor jobs := by
  refine Run.allSteps_iff_guard ?_ ?_ h
  · intro actor job _ hinv hidle
    exact ⟨ConnectionActor.step_cacheKeyed hinv.keyed job, hidle⟩
  · intro actor job _ hinv
    exact ConnectionActor.step_cacheIdle_iff hinv.keyed hinv.idle job

/-- **The cached handles are idle at every command boundary** exactly if no command strands a handle
in the cache, whatever the batches, the failing calls and the moments at which the receivers go. -/
theorem cached_handles_idle_iff (contents : C) (capacity : ℕ) (settings : MssqlBufferSettings)
    (jobs : List (Job A)) :
    Run.AllSteps ConnectionActor.step (fun actor job ↦ CacheIdle (actor.step job).stmtCache)
        (.connect E contents capacity settings) jobs ↔
      Run.AllSteps ConnectionActor.step ConnectionActor.LeavesIdle
        (.connect E contents capacity settings) jobs :=
  (CachedIdle.connect E contents capacity settings).allSteps_iff jobs

/-- The server that answers every statement with two row counts. -/
def twoUpdates : Env (List String) ℤ ℤ ℤ :=
  .recorder fun _ ↦ ⟨.ok (.ofCount 1), [.result false (.ofCount 1)]⟩

/-- A persistent statement with an argument, and a receiver that goes at once. -/
def droppedBatch : Job ℤ := ⟨.execute "UPDATE a; UPDATE b" (some [1]) true, .none, some 0⟩

/-- **A receiver that goes between row counts leaves results on a cached handle.** -/
theorem dropped_batch_stays_unread :
    ¬ ∀ (E : Env (List String) ℤ ℤ ℤ) (jobs : List (Job ℤ)),
      Run.AllSteps ConnectionActor.step (fun actor job ↦ CacheIdle (actor.step job).stmtCache)
        (.connect E [] 16 default) jobs := by
  intro h
  let actor : ConnectionActor twoUpdates := .connect twoUpdates [] 16 default
  have hidle : CacheIdle (actor.step droppedBatch).stmtCache := (h twoUpdates [droppedBatch]).1
  have hkeyed : CacheKeyed actor.stmtCache := CacheImpl.all_new 16
  have hclean : actor.LeavesIdle droppedBatch :=
    (ConnectionActor.step_cacheIdle_iff hkeyed (CacheImpl.all_new 16) _).1 hidle
  have hstrands : (twoUpdates.exec "UPDATE a; UPDATE b" [1] []).1.Strands twoUpdates default
      (some 0) false :=
    .receiverGone rfl rfl rfl (List.cons_ne_nil _ _)
  exact hclean ⟨rfl, fun _ ↦ ⟨_, rfl⟩⟩ rfl rfl rfl hstrands

end MssqlOdbc
