import MssqlOdbc.Connection.Talk

/-!
# The actor among its consumers

`execute_receiver` makes a bounded channel for the response stream, and the actor blocks while it is
full.  Meanwhile the consumer reads or drops its receiver, other commands are queued, and consumers
of earlier commands read what was left for them.  `ActorSystem` has all of these steps.

None of it shows: the actor processes the commands as the command loop `run` does, one at a time,
each with some number of items its consumer takes, and a consumer reads a beginning of its own
stream, all of it if it stays (`interleavings_sequential`).  Every such number comes up
(`interleavings_exact`).  The actor waits only for the consumer of the command at hand, and a system
that has come to rest has processed every command (`interleavings_end`).
-/

set_option autoImplicit false

namespace MssqlOdbc

open Channel

variable {C κ A V : Type} {E : Env C κ A V}

/-! ## The command loop -/

namespace ConnectionActor

/-- What processing one command after the other leaves each time. -/
def processes (actor : ConnectionActor E) : List (Job A) → List (Processed E)
  | [] => []
  | job :: jobs => actor.process job :: (actor.step job).processes jobs

/-- Without a `Shutdown` the loop processes everything. -/
theorem run_eq (actor : ConnectionActor E) {jobs : List (Job A)}
    (hjobs : ∀ job ∈ jobs, job.command.isShutdown = false) :
    actor.run jobs = (jobs.foldl step actor, (actor.processes jobs).map Processed.response) := by
  induction jobs generalizing actor with
  | nil => rfl
  | cons job jobs ih =>
    obtain ⟨hjob, hjobs⟩ := List.forall_mem_cons.1 hjobs
    have hrest := ih (actor.step job) hjobs
    obtain ⟨command, f, room⟩ := job
    cases command with
    | shutdown => cases hjob
    | _ =>
      rw [run]
      simp only
      rw [show (process actor _).actor.run jobs = _ from hrest]
      rfl

end ConnectionActor

/-! ## The system -/

/-- The capacity of a response channel. -/
def responseCapacity : ℕ := 64

/-- The actor, the commands in the channel to it, and the response channels. -/
abbrev ActorSystem (E : Env C κ A V) : Type :=
  System (ConnectionActor E) (Request A) (ExecuteResult V) (Processed E)

namespace ActorSystem

/-- What can be reached from an actor nothing was sent to. -/
def Reachable (actor : ConnectionActor E) (c : ActorSystem E) : Prop :=
  Reaches ConnectionActor.serve Processed.actor responseCapacity actor c

/-- The commands with the number of items each consumer takes. -/
def jobsOf (past : List (Request A × Option ℕ)) : List (Job A) := past.map fun p ↦ p.1.job p.2

theorem sequential_eq (actor : ConnectionActor E) (past : List (Request A × Option ℕ)) :
    (sequential ConnectionActor.serve Processed.actor actor past).map Prod.fst =
      actor.processes (jobsOf past) := by
  induction past generalizing actor with
  | nil => rfl
  | cons p past ih =>
    rw [sequential, List.map_cons, ConnectionActor.serve_result, ih]
    rfl

theorem after_eq (actor : ConnectionActor E) (past : List (Request A × Option ℕ)) :
    after ConnectionActor.serve Processed.actor actor past =
      (jobsOf past).foldl ConnectionActor.step actor := by
  rw [after, jobsOf, List.foldl_map]
  exact congrArg (fun f ↦ past.foldl f actor)
    (funext fun actor ↦ funext fun p ↦ congrArg Processed.actor (actor.serve_result p.1 p.2))

/-- The whole stream of the `i`-th command, for a consumer that stays. -/
def stream (actor : ConnectionActor E) (past : List (Request A × Option ℕ)) (i : ℕ)
    (request : Request A) : List (ExecuteResult V) :=
  let before := ((jobsOf past).take i).foldl ConnectionActor.step actor
  request.command.streamed (before.process (request.job none))

theorem stream_eq (actor : ConnectionActor E) (past : List (Request A × Option ℕ)) (i : ℕ)
    (request : Request A) :
    (ConnectionActor.serve
      (after ConnectionActor.serve Processed.actor actor (past.take i)) request).accepted none =
      stream actor past i request := by
  rw [ConnectionActor.serve_accepted, after_eq, stream, jobsOf, jobsOf, List.map_take]

theorem running (past : List (Request A × Option ℕ)) :
    ∀ job ∈ jobsOf past, job.command.isShutdown = false := by
  intro job hjob
  obtain ⟨p, -, rfl⟩ := List.mem_map.1 hjob
  exact p.1.running

end ActorSystem

open ActorSystem

variable {actor : ConnectionActor E} {c : ActorSystem E}

/-- The commands processed so far are those of `past`, each with the number of items its consumer
took, and were processed by the command loop one after the other. -/
structure Sequential (actor : ConnectionActor E) (c : ActorSystem E)
    (past : List (Request A × Option ℕ)) : Prop where
  requests : past.map Prod.fst <+: c.jobs
  finished : c.finished = actor.processes (jobsOf past)
  responses : (actor.run (jobsOf past)).2 = c.finished.map Processed.response
  idle : ∀ idle, c.server = .inl idle → idle = (actor.run (jobsOf past)).1
  /-- A consumer has received a beginning of its stream. -/
  received : ∀ i request, i ≤ c.turn → c.jobs[i]? = some request →
    (c.chan i).received <+: stream actor past i request
  /-- A consumer that is still there loses nothing of it. -/
  complete : ∀ i request, i < c.turn → c.jobs[i]? = some request → (c.chan i).connected = true →
    (c.chan i).received ++ (c.chan i).queue = stream actor past i request
  /-- Nothing was sent to the consumer of a command that waits for its turn. -/
  waiting : ∀ i, c.turn < i → (c.chan i).received = [] ∧ (c.chan i).queue = []

/-- **Interleavings are sequential.**  However the actor, its consumers and the commands that come
in take turns, the commands processed so far were processed one after the other by the command loop,
and the consumers received the beginnings of their streams, the whole of them if they stay, and
nothing before their turn; no response channel ever holds more than 64 items. -/
theorem interleavings_sequential (h : Reachable actor c) :
    (∃ past, Sequential actor c past) ∧ ∀ i, (c.chan i).queue.length ≤ 64 := by
  obtain ⟨past, hpast⟩ := linearized_of_reaches h
  have hfinished : c.finished = actor.processes (jobsOf past) := by
    rw [← hpast.finished, sequential_eq]
  refine ⟨⟨past, hpast.jobs, hfinished, ?_, fun idle hidle ↦ ?_, fun i request hi hrequest ↦ ?_,
    fun i request hi hrequest hconnected ↦ ?_, fun i hi ↦ ?_⟩, bounded_of_reaches h⟩
  · rw [actor.run_eq (running past), hfinished]
  · have hserver := hpast.server
    rw [hidle] at hserver
    rw [actor.run_eq (running past), hserver.1, after_eq]
  · rw [← stream_eq]
    exact hpast.received_prefix hi hrequest
  · rw [← stream_eq]
    exact hpast.received_complete hi hrequest hconnected
  · exact List.append_eq_nil_iff.1 (List.prefix_nil.1 (hpast.waiting i hi).ordered)

/-- The server that answers every statement with two rows. -/
def twoRows : Env (List String) ℤ ℤ ℤ :=
  .recorder fun _ ↦ ⟨.ok (.ofRows 1 [fun _ ↦ 5, fun _ ↦ 7]), []⟩

/-- A statement that is not cached. -/
def selecting : Request ℤ := ⟨.execute "SELECT a FROM t" none false, .none, rfl⟩

/-- Three statements are processed and a fourth waits.  The consumer of the first goes after one of
the two rows, the next before it has read anything, and the third stays. -/
theorem exists_selected : ∃ c : ActorSystem twoRows,
    Reachable (.connect twoRows [] 16 default) c ∧
      c.jobs = [selecting, selecting, selecting, selecting] ∧ c.turn = 3 ∧
      ((c.chan 0).received.length = 1 ∧ (c.chan 0).connected = false) ∧
      ((c.chan 1).received = [] ∧ (c.chan 1).connected = false) ∧
      (c.chan 2).received.length = 3 := by
  obtain ⟨c, hreaches, hjobs, hfinished, -, hreceived, hgone, -⟩ :=
    exists_reaches ConnectionActor.serve Processed.actor (show 0 < responseCapacity by decide)
      (.connect twoRows [] 16 default)
      [(selecting, some 1), (selecting, some 0), (selecting, none)]
  refine ⟨c.submit selecting, hreaches.tail (.submit c selecting), ?_, ?_, ⟨?_, ?_⟩, ⟨?_, ?_⟩, ?_⟩
  · exact congrArg (· ++ [selecting]) hjobs
  · exact (congrArg List.length hfinished).trans rfl
  · exact (congrArg List.length (hreceived 0 _ _ rfl)).trans (by decide +kernel)
  · exact hgone 0 _ 1 rfl (by decide +kernel)
  · exact (hreceived 1 _ _ rfl).trans (Producer.accepted_zero _)
  · exact hgone 1 _ 0 rfl (by decide +kernel)
  · exact (congrArg List.length (hreceived 2 _ _ rfl)).trans (by decide +kernel)

theorem interleavings_sequential_twoRows : ∃ c : ActorSystem twoRows,
    c.turn = 3 ∧ ((c.chan 0).received.length = 1 ∧ (c.chan 0).connected = false) ∧
      ((c.chan 1).received = [] ∧ (c.chan 1).connected = false) ∧
      (c.chan 2).received.length = 3 ∧
      (∃ past, Sequential (.connect twoRows [] 16 default) c past) ∧
      ∀ i, (c.chan i).queue.length ≤ 64 := by
  obtain ⟨c, h, -, hturn, hfirst, hsecond, hthird⟩ := exists_selected
  exact ⟨c, hturn, hfirst, hsecond, hthird, interleavings_sequential h⟩

/-- **Nothing the model of the actor allows is made up.**  Whatever numbers of items the consumers
are to take, some interleaving processes the commands that way, and each consumer has received
exactly what it took. -/
theorem interleavings_exact (actor : ConnectionActor E) (past : List (Request A × Option ℕ)) :
    ∃ c, Reachable actor c ∧ c.jobs = past.map Prod.fst ∧
      c.finished = actor.processes (jobsOf past) ∧ c.server = .inl (actor.run (jobsOf past)).1 ∧
      ∀ i request room, past[i]? = some (request, room) →
        (c.chan i).received = request.command.streamed
          ((((jobsOf past).take i).foldl ConnectionActor.step actor).process
            (request.job room)) := by
  obtain ⟨c, hreaches, hjobs, hfinished, hserver, hreceived, -, -⟩ :=
    exists_reaches ConnectionActor.serve Processed.actor (show 0 < responseCapacity by decide)
      actor past
  refine ⟨c, hreaches, hjobs, ?_, ?_, fun i request room hi ↦ ?_⟩
  · rw [hfinished, sequential_eq]
  · rw [hserver, actor.run_eq (running past), after_eq]
  · have hseq := getElem?_sequential ConnectionActor.serve Processed.actor actor past i
    rw [hi] at hseq
    rw [hreceived i _ _ hseq, ConnectionActor.serve_accepted, after_eq, jobsOf, jobsOf,
      List.map_take]

/-- **No interleaving gets stuck.**  Without further commands the actor and the consumers take only
finitely many steps; the actor is at an end, or can go on, or waits for the consumer of the command
at hand to read one of 64 items or to go; and when it can do nothing and no consumer has anything to
read, every command is processed and every consumer that is still there has its whole stream. -/
theorem interleavings_end (h : Reachable actor c) :
    (WellFounded fun c' c ↦ Reachable actor c ∧
      Move ConnectionActor.serve Processed.actor responseCapacity c c') ∧
    (c.turn = c.jobs.length ∨
      (∃ c', Act ConnectionActor.serve Processed.actor responseCapacity c c') ∨
      (c.chan c.turn).connected = true ∧ (c.chan c.turn).queue.length = 64) ∧
    (Quiet ConnectionActor.serve Processed.actor responseCapacity c →
      ∃ past : List (Request A × Option ℕ), past.map Prod.fst = c.jobs ∧
        c.finished = actor.processes (jobsOf past) ∧
        ∀ i request, c.jobs[i]? = some request → (c.chan i).connected = true →
          (c.chan i).received = stream actor past i request) := by
  refine ⟨moves_wellFounded _ _ _ actor, ?_, fun hquiet ↦ ?_⟩
  · obtain hturn | hact | ⟨-, hfull⟩ := act_of_reaches h
    · exact Or.inl hturn
    · exact Or.inr (Or.inl hact)
    · exact Or.inr (Or.inr hfull)
  · obtain ⟨hturn, hempty⟩ := finished_of_quiet (show 0 < responseCapacity by decide) h hquiet
    obtain ⟨past, hpast⟩ := linearized_of_reaches h
    have hlength : c.jobs.length = (past.map Prod.fst).length := by
      rw [← hturn, List.length_map, hpast.length_past]
    refine ⟨past, hpast.jobs.eq_of_length hlength.symm, ?_, fun i request hi hconnected ↦ ?_⟩
    · rw [← hpast.finished, sequential_eq]
    · obtain ⟨hlt, -⟩ := List.getElem?_eq_some_iff.1 hi
      rw [← hturn] at hlt
      have hcomplete := hpast.received_complete hlt hi hconnected
      rw [hempty i, List.append_nil] at hcomplete
      rw [hcomplete, stream_eq]

theorem interleavings_end_twoRows : ∃ c : ActorSystem twoRows,
    c.jobs = [selecting, selecting, selecting, selecting] ∧ c.turn = 3 ∧
      ((c.chan 0).received.length = 1 ∧ (c.chan 0).connected = false) ∧
      ((c.chan 1).received = [] ∧ (c.chan 1).connected = false) ∧
      (c.turn = c.jobs.length ∨
        (∃ c', Act ConnectionActor.serve Processed.actor responseCapacity c c') ∨
        (c.chan c.turn).connected = true ∧ (c.chan c.turn).queue.length = 64) ∧
      (Quiet ConnectionActor.serve Processed.actor responseCapacity c →
        ∃ past : List (Request ℤ × Option ℕ), past.map Prod.fst = c.jobs ∧
          c.finished = (ConnectionActor.connect twoRows [] 16 default).processes (jobsOf past) ∧
          ∀ i request, c.jobs[i]? = some request → (c.chan i).connected = true →
            (c.chan i).received =
              stream (.connect twoRows [] 16 default) past i request) := by
  obtain ⟨c, h, hjobs, hturn, hfirst, hsecond, -⟩ := exists_selected
  exact ⟨c, hjobs, hturn, hfirst, hsecond, (interleavings_end h).2⟩

end MssqlOdbc
