import MssqlOdbc.Connection.Interleaving
import MssqlOdbc.Execute.CachedHandle

/-!
# While the connection is free

A cached handle that is left with unread results keeps the connection busy, and then the driver may
refuse what the next command asks for.  The model of the calls below the actor does not know about
this: every command is processed as on a free connection.  So what depends on the commands before,
on the statement cache and on their consumers, is said of an actor that may do anything, `busy`,
with a command it gets while a cached handle is not idle (`serveIfFree`).

It can be told from the actor of the model only on a busy connection.  As long as the commands leave
the cached handles idle, which is a matter of their batches, their failing calls and their consumers
(`alwaysFree_iff`), the interleavings are the same (`ActorSystem.reachable_of_free`), and so are the
runs (`ConnectionActor.after_of_free`).
-/

set_option autoImplicit false

namespace MssqlOdbc

open Channel

variable {C κ A V : Type} {E : Env C κ A V}

/-- What may happen to a request on a busy connection. -/
abbrev Busy (E : Env C κ A V) : Type :=
  ConnectionActor E → Request A → Producer (ExecuteResult V) (Processed E)

/-- One such thing: nothing is done, and the request fails. -/
def refusesBusy (E : Env C κ A V) : Busy E := fun actor _ ↦
  .done ⟨actor, [], .done (.error (.protocol "connection is busy"))⟩

namespace ConnectionActor

/-- No cached handle keeps the connection busy. -/
def Free (actor : ConnectionActor E) : Prop := CacheIdle actor.stmtCache

open Classical in
/-- The actor, with `busy` in place of what it does on a connection that is not free. -/
noncomputable def serveIfFree (busy : Busy E) (actor : ConnectionActor E) (request : Request A) :
    Producer (ExecuteResult V) (Processed E) :=
  if actor.Free then actor.serve request else busy actor request

/-- The actor behind a past. -/
noncomputable def afterIfFree (busy : Busy E) (actor : ConnectionActor E)
    (past : List (Request A × Option ℕ)) : ConnectionActor E :=
  after (serveIfFree busy) Processed.actor actor past

theorem serveIfFree_of_free (busy : Busy E) {actor : ConnectionActor E} (h : actor.Free)
    (request : Request A) : actor.serveIfFree busy request = actor.serve request :=
  if_pos h

theorem Free.connect (E : Env C κ A V) (contents : C) (capacity : ℕ)
    (settings : MssqlBufferSettings) :
    (ConnectionActor.connect E contents capacity settings).Free :=
  CacheImpl.all_new capacity

/-- **Runs on a free connection.**  By induction on the past: each command finds the connection free
and leaves it free. -/
theorem after_of_free (busy : Busy E) {actor : ConnectionActor E} (hactor : CachedIdle actor)
    {past : List (Request A × Option ℕ)}
    (h : Run.AllSteps step LeavesIdle actor (ActorSystem.jobsOf past)) :
    actor.afterIfFree busy past = (ActorSystem.jobsOf past).foldl step actor := by
  induction past generalizing actor with
  | nil => rfl
  | cons p past ih =>
    obtain ⟨hjob, hpast⟩ := h
    have hserve : Processed.actor ((actor.serveIfFree busy p.1).result p.2) =
        actor.step (p.1.job p.2) := by
      rw [serveIfFree_of_free busy hactor.idle, serve_result]
      rfl
    refine Eq.trans ?_ (ih (hactor.step hjob) hpast)
    rw [← hserve]
    rfl

end ConnectionActor

namespace ActorSystem

/-- What can be reached, with `busy` for what happens on a connection that is not free. -/
def ReachableIfFree (busy : Busy E) (actor : ConnectionActor E) (c : ActorSystem E) : Prop :=
  Reaches (ConnectionActor.serveIfFree busy) Processed.actor responseCapacity actor c

/-- Every command processed so far has left the cached handles idle. -/
def AlwaysFree (c : ActorSystem E) : Prop :=
  ∀ processed ∈ c.finished, processed.actor.Free

variable {actor : ConnectionActor E} {c : ActorSystem E}

/-- **On a connection that is always free** nothing shows of what happens on a busy one. -/
theorem reachable_of_free {busy : Busy E} (hactor : actor.Free) (h : ReachableIfFree busy actor c)
    (hfree : c.AlwaysFree) : Reachable actor c := by
  refine reaches_of_agree (fun actor request hidle ↦ ?_) hactor h hfree
  exact ConnectionActor.serveIfFree_of_free busy hidle request

/-- The other way round, what is reached on free connections is reached whatever happens on busy
ones. -/
theorem reachableIfFree_of_free (busy : Busy E) (hactor : actor.Free) (h : Reachable actor c)
    (hfree : c.AlwaysFree) : ReachableIfFree busy actor c := by
  refine reaches_of_agree (fun actor request hidle ↦ ?_) hactor h hfree
  exact (ConnectionActor.serveIfFree_of_free busy hidle request).symm

theorem forall_processes_iff (actor : ConnectionActor E) (jobs : List (Job A)) :
    (∀ processed ∈ actor.processes jobs, processed.actor.Free) ↔
      Run.AllSteps ConnectionActor.step
        (fun actor job ↦ CacheIdle (actor.step job).stmtCache) actor jobs := by
  induction jobs generalizing actor with
  | nil => simp [ConnectionActor.processes]
  | cons job jobs ih =>
    rw [ConnectionActor.processes, List.forall_mem_cons, ih, Run.allSteps_cons]
    rfl

/-- Whether a connection is always free is a matter of the batches, the failing calls and the
consumers of the commands. -/
theorem alwaysFree_iff (hactor : CachedIdle actor) {jobs : List (Job A)}
    (hfinished : c.finished = actor.processes jobs) :
    c.AlwaysFree ↔ Run.AllSteps ConnectionActor.step ConnectionActor.LeavesIdle actor jobs := by
  rw [AlwaysFree, hfinished, forall_processes_iff, hactor.allSteps_iff]

end ActorSystem

/-! ## Batches of one result -/

/-- A batch of one result strands nothing if the columns of the result can be counted. -/
theorem Batch.not_strands_of_single {settings : MssqlBufferSettings} {batch : Batch κ}
    (hrest : batch.rest = []) (hcols : ∀ result, batch.head = .ok result →
      result.numColsError = none) (room : Option ℕ) (failed : Bool) :
    ¬ batch.Strands E settings room failed := by
  intro h
  rw [Strands, hrest] at h
  cases hhead : batch.head with
  | error e =>
    rw [hhead] at h
    exact h.1 rfl
  | ok result =>
    rw [hhead] at h
    cases h with
    | columnCount hcount _ =>
      rw [hcols result hhead] at hcount
      cases hcount
    | rowCount _ _ _ hunread => exact hunread rfl
    | receiverGone _ _ _ hunread => exact hunread rfl
    | advance _ _ hunread =>
      rw [leftUnread] at hunread
      cases hfetch : result.fetchError with
      | some e =>
        rw [hfetch] at hunread
        exact hunread rfl
      | none =>
        rw [hfetch] at hunread
        exact hunread rfl

/-- On such a server every command leaves the cached handles idle. -/
theorem ConnectionActor.leavesIdle_of_single (hE : ∀ sql parameters contents,
      (E.exec sql parameters contents).1.rest = [] ∧
        ∀ result, (E.exec sql parameters contents).1.head = .ok result → result.numColsError = none)
    (actor : ConnectionActor E) (jobs : List (Job A)) :
    Run.AllSteps step LeavesIdle actor jobs := by
  have hstep (actor : ConnectionActor E) (job : Job A) : actor.LeavesIdle job := by
    obtain ⟨command, f, room⟩ := job
    cases command with
    | execute sql args persistent =>
      obtain ⟨hrest, hcols⟩ := hE sql (args.getD []) actor.conn.working
      intro _ _
      cases E.cache.get actor.stmtCache sql with
      | some prepared => exact fun failed ↦ Batch.not_strands_of_single hrest hcols room failed
      | none => exact fun _ _ ↦ Batch.not_strands_of_single hrest hcols room false
    | _ => trivial
  induction jobs generalizing actor with
  | nil => trivial
  | cons job jobs ih => exact ⟨hstep actor job, ih _⟩

end MssqlOdbc
