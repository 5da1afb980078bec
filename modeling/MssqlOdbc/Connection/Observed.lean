import MssqlOdbc.Connection.Confluence

/-!
# What a consumer does not notice

A connection is shared: consumers of earlier commands may have left early or not have read anything
yet, commands wait behind others, and the statement cache remembers what was executed.  None of this
is noticed while the connection is free.  The same commands on a connection without a statement
cache, one after the other and with consumers that stay, are answered in the same way, item by item
and error by error (`consumers_unaware`).  It is noticed when a consumer that leaves early, or a
batch that fails, strands a cached handle: then the connection is busy, and the next consumer may
get an error in place of its rows.

There is one other exception.  A statement that the server refuses to prepare fails, and it fails
with another error if the cache has kept it from the time when the server did not refuse.
-/

set_option autoImplicit false

namespace MssqlOdbc

open TxStore Channel

variable {C κ A V : Type} {E : Env C κ A V} {f : Faults}

/-! ## Executions -/

/-- Whether a statement is executed does not depend on the cache, unless it has to be prepared and
cannot be. -/
theorem Session.executes_iff (f : Faults) (args : Option (List A)) (persistent : Bool)
    (s : Session E) {sql : String} (hprepare : usesCache args persistent = true →
      ∃ info, E.prepare sql s.actor.conn.working = .ok info) :
    s.Executes f sql args persistent ↔ f.blocksExecute args persistent = false := by
  rw [Executes, Faults.blocksExecute]
  split
  · rename_i hcache
    exact and_iff_left fun _ ↦ hprepare hcache
  · rw [Option.isSome_eq_false_iff, Option.isNone_iff_eq_none]

/-- What keeps such a statement from being executed is the same everywhere. -/
theorem exists_unexecuted (f : Faults) (sql : String) (args : Option (List A))
    (persistent : Bool) :
    ∃ e, ∀ s : Session E, (usesCache args persistent = true →
        ∃ info, E.prepare sql s.actor.conn.working = .ok info) →
      ¬ s.Executes f sql args persistent →
      ∃ cache, handleExecute E f sql args persistent s = (.error e, s.setCache cache) := by
  cases hcache : usesCache args persistent with
  | true =>
    refine ⟨.protocol "ODBC execute: failed to lock connection", fun s hprepare hnot ↦ ?_⟩
    obtain ⟨info, hinfo⟩ := hprepare rfl
    rw [Session.Executes, if_pos hcache] at hnot
    cases hlock : f.lock with
    | false => exact absurd ⟨hlock, fun _ ↦ ⟨info, hinfo⟩⟩ hnot
    | true =>
      rw [handleExecute, ← usesCache, if_pos hcache]
      cases hget : E.cache.get s.actor.stmtCache sql with
      | some prepared =>
        have hlookup : lookup E sql s = (.ok (some prepared),
            s.setCache (E.cache.touch s.actor.stmtCache sql)) := by
          rw [lookup_apply, hget]
        rw [Proc.bind_of_ok hlookup]
        exact ⟨_, executeCached_locked hlock prepared⟩
      | none =>
        rw [Proc.bind_of_ok (lookup_of_get_eq_none hget)]
        exact ⟨s.actor.stmtCache, executeUncached_locked hlock hinfo⟩
  | false =>
    have hnotCached : ¬ usesCache args persistent = true := by simp [hcache]
    cases hpre : f.preallocate with
    | none =>
      refine ⟨.protocol "", fun s _ hnot ↦ ?_⟩
      rw [Session.Executes, if_neg hnotCached] at hnot
      exact absurd hpre hnot
    | some e =>
      refine ⟨databaseError
        s!"failed to allocate an ODBC statement for query: `{sqlPreview sql}`" e,
        fun s _ _ ↦ ⟨s.actor.stmtCache, ?_⟩⟩
      rw [handleExecute, ← usesCache, if_neg hnotCached]
      exact executeOneShot_unallocated hpre

/-- What a statement that is executed is answered with: the context of an error depends on whether
the cache is asked, but not on whether it knows the statement. -/
theorem exists_executed (sql : String) (args : Option (List A)) (persistent : Bool) :
    ∃ context, ∀ (f : Faults) (s : Session E), CacheKeyed s.actor.stmtCache →
      s.Executes f sql args persistent →
      ∃ cache, handleExecute E f sql args persistent s =
        let walked := s.walk context sql (args.getD [])
        (walked.outcome, ((s.execute sql (args.getD [])).setWire walked.wire).setCache cache) := by
  cases hcache : usesCache args persistent with
  | true =>
    refine ⟨s!"failed to execute cached ODBC statement: `{sqlPreview sql}`",
      fun f s hkeyed hexecutes ↦ ?_⟩
    rw [Session.Executes, if_pos hcache] at hexecutes
    obtain ⟨hlock, hprepare⟩ := hexecutes
    rw [handleExecute, ← usesCache, if_pos hcache]
    cases hget : E.cache.get s.actor.stmtCache sql with
    | some prepared =>
      have hlookup : lookup E sql s = (.ok (some prepared),
          s.setCache (E.cache.touch s.actor.stmtCache sql)) := by
        rw [lookup_apply, hget]
      rw [Proc.bind_of_ok hlookup]
      exact ⟨_, executeCached_apply hlock (hkeyed sql prepared hget)⟩
    | none =>
      obtain ⟨info, hinfo⟩ := hprepare hget
      rw [Proc.bind_of_ok (lookup_of_get_eq_none hget)]
      exact ⟨_, executeUncached_apply hlock hinfo⟩
  | false =>
    have hnotCached : ¬ usesCache args persistent = true := by simp [hcache]
    refine ⟨s!"failed to execute ODBC query: `{sqlPreview sql}`", fun f s _ hexecutes ↦ ?_⟩
    rw [Session.Executes, if_neg hnotCached] at hexecutes
    rw [handleExecute, ← usesCache, if_neg hnotCached]
    exact ⟨s.actor.stmtCache, executeOneShot_apply hexecutes⟩

namespace ConnectionActor

/-- What the consumer of an execution receives. -/
def received (actor : ConnectionActor E) (f : Faults) (room : Option ℕ) (sql : String)
    (args : Option (List A)) (persistent : Bool) : List (ExecuteResult V) :=
  Wire.items (actor.processExecute f room sql args persistent).trace

variable {actor actor' : ConnectionActor E}

theorem received_unexecuted {sql : String} {args : Option (List A)} {persistent : Bool}
    {e : Error} {cache : E.cache.State}
    (h : handleExecute E f sql args persistent ⟨actor, ⟨none, []⟩⟩ =
      (.error e, (⟨actor, ⟨none, []⟩⟩ : Session E).setCache cache)) :
    actor.received f none sql args persistent = [.error e] := by
  rw [received, processExecute, h]
  rfl

variable (E) in
theorem exists_received (sql : String) (args : Option (List A)) (persistent : Bool) :
    ∃ context, ∀ (f : Faults) (actor : ConnectionActor E), CacheKeyed actor.stmtCache →
      (⟨actor, ⟨none, []⟩⟩ : Session E).Executes f sql args persistent →
      actor.received f none sql args persistent =
        ((E.exec sql (args.getD []) actor.conn.working).1.stream E actor.bufferSettings
          context).toList := by
  obtain ⟨context, hcontext⟩ := exists_executed (E := E) sql args persistent
  refine ⟨context, fun f actor hkeyed hexecutes ↦ ?_⟩
  obtain ⟨cache, hrun⟩ := hcontext f ⟨actor, ⟨none, []⟩⟩ hkeyed hexecutes
  obtain ⟨events, stmt, hcarries, hwalk⟩ := walkBatch_streams E actor.bufferSettings context
    (E.exec sql (args.getD []) actor.conn.working).1 [.executed sql (args.getD [])]
  have hsession : (⟨actor, ⟨none, []⟩⟩ : Session E).walk context sql (args.getD []) = _ := hwalk
  rw [← hcarries.items_trace sql (args.getD []), received, processExecute, hrun, hsession,
    ErrStream.outcome]
  cases ((E.exec sql (args.getD []) actor.conn.working).1.stream E actor.bufferSettings
      context).error with
  | none => exact congrArg Wire.items (List.append_nil _).symm
  | some e => rfl

/-- A statement that cannot be prepared is answered with an error and nothing else. -/
theorem received_refused (hE : E.PreparesSoundly) (hkeyed : CacheKeyed actor.stmtCache)
    {sql : String} {o : OdbcError} (h : E.prepare sql actor.conn.working = .error o) (f : Faults)
    (args : Option (List A)) (persistent : Bool) :
    ∃ e, actor.received f none sql args persistent = [.error e] := by
  by_cases hexecutes : (⟨actor, ⟨none, []⟩⟩ : Session E).Executes f sql args persistent
  · obtain ⟨context, hreceived⟩ := exists_received E sql args persistent
    obtain ⟨⟨e, hhead⟩, -⟩ := hE.refused sql (args.getD []) _ o h
    rw [hreceived f actor hkeyed hexecutes, Batch.stream, Batch.first, hhead]
    exact ⟨_, rfl⟩
  · obtain ⟨-, e, htrace⟩ | ⟨hexecutes', -⟩ :=
      actor.processExecute_open (f := f) hkeyed sql args persistent
    · exact ⟨e, by rw [received, htrace]; rfl⟩
    · exact absurd hexecutes' hexecutes

/-- On the same contents an execution is answered alike, whatever the caches hold, unless it has to
be prepared and cannot be. -/
theorem received_alike (hsame : SameContents actor actor')
    (hsettings : actor.bufferSettings = actor'.bufferSettings)
    (hkeyed : CacheKeyed actor.stmtCache) (hkeyed' : CacheKeyed actor'.stmtCache)
    (f : Faults) {sql : String} {args : Option (List A)} {persistent : Bool}
    (hprepare : usesCache args persistent = true →
      ∃ info, E.prepare sql actor.conn.working = .ok info) :
    actor.received f none sql args persistent = actor'.received f none sql args persistent := by
  have hprepare' : usesCache args persistent = true →
    ∃ info, E.prepare sql actor'.conn.working = .ok info := hsame.conn ▸ hprepare
  have hexecutes := Session.executes_iff f args persistent ⟨actor, ⟨none, []⟩⟩ hprepare
  have hexecutes' := Session.executes_iff f args persistent ⟨actor', ⟨none, []⟩⟩ hprepare'
  cases hblocked : f.blocksExecute args persistent with
  | true =>
    obtain ⟨e, he⟩ := exists_unexecuted (E := E) f sql args persistent
    obtain ⟨cache, hrun⟩ := he ⟨actor, ⟨none, []⟩⟩ hprepare (by simp [hexecutes, hblocked])
    obtain ⟨cache', hrun'⟩ := he ⟨actor', ⟨none, []⟩⟩ hprepare' (by simp [hexecutes', hblocked])
    rw [received_unexecuted hrun, received_unexecuted hrun']
  | false =>
    obtain ⟨context, hreceived⟩ := exists_received E sql args persistent
    rw [hreceived f actor hkeyed (hexecutes.2 hblocked),
      hreceived f actor' hkeyed' (hexecutes'.2 hblocked), hsame.conn, hsettings]

end ConnectionActor

/-! ## Answers -/

/-- Whether a command is answered from the statement cache. -/
def Command.asksCache : Command A → Bool
  | .prepare _ | .statementCacheSize => true
  | _ => false

theorem SameContents.response {actor actor' : ConnectionActor E} (hsame : SameContents actor actor')
    {command : Command A} (hasks : command.asksCache = false) (f : Faults)
    (room room' : Option ℕ) :
    (actor.process ⟨command, f, room⟩).response =
      (actor'.process ⟨command, f, room'⟩).response := by
  by_cases hcache : command.usesStmtCache = false
  · have hsize : command.isCacheSize = false := by
      cases command with
      | statementCacheSize => cases hasks
      | _ => rfl
    rw [actor'.process_room hcache f room' room, hsame.eq_configure,
      actor.process_configure _ _ hcache hsize]
  · cases command with
    | execute sql args persistent =>
      have hnone (actor : ConnectionActor E) (room : Option ℕ) :
          (actor.process ⟨.execute sql args persistent, f, room⟩).response = .none := by
        show (actor.processExecute f room sql args persistent).response = .none
        rw [ConnectionActor.processExecute_eq]
      rw [hnone, hnone]
    | clearStatementCache => rfl
    | prepare sql => cases hasks
    | _ => exact absurd rfl hcache

/-! ## Interleavings -/

/-- The execution has to be prepared, and the server refuses to. -/
def Command.Refused (E : Env C κ A V) (contents : C) : Command A → Prop
  | .execute sql args persistent =>
    usesCache args persistent = true ∧ ∃ e, E.prepare sql contents = .error e
  | _ => False

/-- The actor of a connection without a statement cache, once it has processed these requests for
consumers that stay. -/
def ConnectionActor.plain (E : Env C κ A V) (contents : C) (settings : MssqlBufferSettings)
    (requests : List (Request A)) : ConnectionActor E :=
  (ActorSystem.jobsOf (requests.map fun request ↦ (request, none))).foldl step
    (.connect E contents 0 settings)

open ActorSystem

/-- A stream on one actor, seen as the stream on another actor with the same contents. -/
theorem SameContents.streamed_alike (hE : E.PreparesSoundly) {actor plain : ConnectionActor E}
    (hsame : SameContents actor plain) (hkeyed : CacheKeyed actor.stmtCache)
    (hkeyed' : CacheKeyed plain.stmtCache) (hsettings : actor.bufferSettings = plain.bufferSettings)
    (request : Request A) :
    request.command.streamed (actor.process (request.job none)) =
        request.command.streamed (plain.process (request.job none)) ∨
      request.command.Refused E plain.conn.working ∧
        (∃ e, request.command.streamed (actor.process (request.job none)) = [.error e]) ∧
        ∃ e, request.command.streamed (plain.process (request.job none)) = [.error e] := by
  obtain ⟨command, f, hrunning⟩ := request
  cases command with
  | execute sql args persistent =>
    by_cases hrefused : (Command.execute sql args persistent).Refused E plain.conn.working
    · obtain ⟨hcache, o, ho⟩ := hrefused
      have ho' : E.prepare sql actor.conn.working = .error o := hsame.conn ▸ ho
      exact Or.inr ⟨⟨hcache, o, ho⟩,
        ConnectionActor.received_refused hE hkeyed ho' f args persistent,
        ConnectionActor.received_refused hE hkeyed' ho f args persistent⟩
    · left
      refine ConnectionActor.received_alike hsame hsettings hkeyed hkeyed' f fun hcache ↦ ?_
      cases hprepare : E.prepare sql actor.conn.working with
      | ok info => exact ⟨info, rfl⟩
      | error o => exact absurd ⟨hcache, o, hsame.conn ▸ hprepare⟩ hrefused
  | _ => exact Or.inl rfl

/-- When a command's turn comes, the database is the one on the plain connection. -/
theorem sameContents_plain (hE : E.PreparesSoundly) {contents : C} {capacity : ℕ}
    {settings : MssqlBufferSettings} {c : ActorSystem E} {past : List (Request A × Option ℕ)}
    (h : Linearized ConnectionActor.serve Processed.actor
      (.connect E contents capacity settings) c past) {i : ℕ} (hi : i ≤ c.turn) :
    SameContents ((jobsOf (past.take i)).foldl ConnectionActor.step
      (.connect E contents capacity settings)) (.plain E contents settings (c.jobs.take i)) := by
  have hconnect : SameContents (.connect E contents capacity settings)
    (.connect E contents 0 settings) := ⟨rfl, rfl⟩
  refine sameContents_foldl hE hconnect (CacheImpl.all_new capacity) (CacheImpl.all_new 0) ?_
  rw [List.map_map, List.map_take, List.prefix_iff_eq_take.1 h.jobs, List.take_take,
    List.length_map, h.length_past, min_eq_left hi]
  exact (List.map_id _).symm

/-- **Consumers take no notice of each other.**  However the actor, its consumers and the commands
that come in take turns, a consumer sees a beginning of the stream that its command has on a
connection without a statement cache, processed behind the same commands for consumers that stay,
and all of it if it stays itself; and a command that is not answered from the cache is answered as
it is there.  Only a statement that has to be prepared and cannot be may fail with another error.
The commands processed so far must not have left results on a cached handle; whatever happens on a
busy connection may be noticed. -/
theorem consumers_unaware (hE : E.PreparesSoundly) {contents : C} {capacity : ℕ}
    {settings : MssqlBufferSettings} {busy : Busy E} {c : ActorSystem E}
    (h : ReachableIfFree busy (.connect E contents capacity settings) c) (hfree : c.AlwaysFree)
    {i : ℕ} {request : Request A} (hi : c.jobs[i]? = some request) :
    let plain := ConnectionActor.plain E contents settings (c.jobs.take i)
    let processed := plain.process (request.job none)
    (c.Shows i (request.command.streamed processed) ∨
      request.command.Refused E plain.conn.working ∧
        (∃ e, c.Shows i [.error e]) ∧ ∃ e, request.command.streamed processed = [.error e]) ∧
    (request.command.asksCache = false →
      ∀ finished, c.finished[i]? = some finished → finished.response = processed.response) := by
  intro plain processed
  obtain ⟨past, hpast⟩ := linearized_of_reaches (reachable_of_free (.connect _ _ _ _) h hfree)
  constructor
  · obtain hturn | hturn := Nat.lt_or_ge c.turn i
    · exact Or.inl (hpast.shows_of_turn_lt hturn _)
    have hsame := sameContents_plain hE hpast hturn
    have hshows := hpast.shows hturn hi
    rw [ConnectionActor.serve_accepted, after_eq] at hshows
    have hplain : plain.bufferSettings = settings :=
      ConnectionActor.run_bufferSettings contents 0 settings _
    have hsettings := ConnectionActor.run_bufferSettings (E := E) contents capacity settings
      (jobsOf (past.take i))
    obtain heq | ⟨hrefused, ⟨e, he⟩, he'⟩ := hsame.streamed_alike hE
      (ConnectionActor.run_cacheKeyed _ _ _ _) (ConnectionActor.run_cacheKeyed _ _ _ _)
      (hsettings.trans hplain.symm) request
    · exact Or.inl (heq ▸ hshows)
    · exact Or.inr ⟨hrefused, ⟨e, he ▸ hshows⟩, he'⟩
  · intro hasks finished hfinished
    have hlt : i < c.turn := (List.getElem?_eq_some_iff.1 hfinished).1
    obtain ⟨room, rfl⟩ := hpast.getElem?_finished hi hfinished
    rw [ConnectionActor.serve_result, after_eq]
    exact (sameContents_plain hE hpast hlt.le).response hasks _ _ _

/-- The consumer of the first statement goes before it has read anything, and leaves the statement
in the cache, where the second finds it. -/
theorem consumers_unaware_refusesTypo :
    let request : Request ℤ := ⟨.execute "UPDATE t" (some [1]) true, .none, rfl⟩
    let plain := ConnectionActor.plain refusesTypo [] default [request]
    let processed := plain.process (request.job none)
    ∃ c : ActorSystem refusesTypo, c.jobs = [request, request] ∧ c.turn = 2 ∧
      (c.Shows 1 (request.command.streamed processed) ∨
        request.command.Refused refusesTypo plain.conn.working ∧
          (∃ e, c.Shows 1 [.error e]) ∧ ∃ e, request.command.streamed processed = [.error e]) ∧
      (request.command.asksCache = false →
        ∀ finished, c.finished[1]? = some finished → finished.response = processed.response) := by
  intro request plain processed
  obtain ⟨c, h, hfree, hjobs, hturn, -⟩ :=
    exists_free_refusesTypo 1 default [(request, some 0), (request, none)]
  have hunaware := consumers_unaware preparesSoundly_refusesTypo h hfree (i := 1)
    (by rw [hjobs]; rfl)
  rw [hjobs] at hunaware
  exact ⟨c, hjobs, hturn, hunaware⟩

end MssqlOdbc
