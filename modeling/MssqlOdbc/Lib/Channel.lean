import Mathlib.Algebra.BigOperators.Group.Finset.Piecewise
import Mathlib.Algebra.Order.BigOperators.Group.Finset
import Mathlib.Data.List.Infix
import Mathlib.Data.Prod.Lex
import Mathlib.Logic.Function.Basic
import Mathlib.Logic.Relation
import Mathlib.Order.WellFounded

/-!
# A server that answers through bounded channels

A `Producer` offers items one by one and is told of each whether it was accepted.  Run on its own
it is described by one number, the *room*: how many items it gets rid of before its receiver is gone
(`none`: the receiver stays).  `Producer.result` and `Producer.accepted` are that description.

In a system the producer is not on its own.  A server works through a queue of jobs, each of them a
producer with a channel of its own; a send blocks while the channel is full; and the consumers
receive and hang up whenever they like, also on jobs that were not started yet.  `Move` and `Step`
are the interleavings of all of that.

The two descriptions agree (`linearized_of_reaches`): the jobs that are finished are those of a run
of one job after the other, each with some room, and what a consumer has received is a prefix of
what was accepted.  Every choice of rooms comes from an interleaving (`exists_reaches`), and servers
that agree in the states that come up have the same interleavings (`reaches_of_agree`).  Moves
cannot go on for ever (`moves_wellFounded`), and a system in which neither the server can move nor a
consumer has anything to receive has finished all of its jobs (`finished_of_quiet`).
-/

set_option autoImplicit false

namespace Channel

/-! ## Producers -/

/-- A program that offers items and ends with a result. -/
inductive Producer (α ρ : Type) where
  | done (result : ρ)
  | send (item : α) (next : Bool → Producer α ρ)

namespace Producer

variable {α ρ τ : Type}

def bind : Producer α ρ → (ρ → Producer α τ) → Producer α τ
  | done r, k => k r
  | send a next, k => send a fun accepted ↦ (next accepted).bind k

/-- The result, when the receiver takes `room` items and is gone then. -/
def result : Producer α ρ → Option ℕ → ρ
  | done r, _ => r
  | send _ next, none => (next true).result none
  | send _ next, some 0 => (next false).result (some 0)
  | send _ next, some (n + 1) => (next true).result (some n)

/-- The items that are accepted. -/
def accepted : Producer α ρ → Option ℕ → List α
  | done _, _ => []
  | send a next, none => a :: (next true).accepted none
  | send _ next, some 0 => (next false).accepted (some 0)
  | send a next, some (n + 1) => a :: (next true).accepted (some n)

/-- The room that is left. -/
def left : Producer α ρ → Option ℕ → Option ℕ
  | done _, room => room
  | send _ next, none => (next true).left none
  | send _ next, some 0 => (next false).left (some 0)
  | send _ next, some (n + 1) => (next true).left (some n)

/-- How often the producer can still be heard of. -/
def rank : Producer α ρ → ℕ
  | done _ => 0
  | send _ next => max (next true).rank (next false).rank + 1

theorem rank_next_lt (item : α) (next : Bool → Producer α ρ) (b : Bool) :
    (next b).rank < (send item next).rank := by
  cases b
  · exact Nat.lt_succ_of_le (le_max_right _ _)
  · exact Nat.lt_succ_of_le (le_max_left _ _)

/-- What follows a producer runs in the room it has left. -/
theorem result_bind (t : Producer α ρ) (k : ρ → Producer α τ) (room : Option ℕ) :
    (t.bind k).result room = (k (t.result room)).result (t.left room) := by
  induction t generalizing room with
  | done r => rfl
  | send item next ih =>
    match room with
    | none => exact ih true none
    | some 0 => exact ih false (some 0)
    | some (n + 1) => exact ih true (some n)

theorem left_bind (t : Producer α ρ) (k : ρ → Producer α τ) (room : Option ℕ) :
    (t.bind k).left room = (k (t.result room)).left (t.left room) := by
  induction t generalizing room with
  | done r => rfl
  | send item next ih =>
    match room with
    | none => exact ih true none
    | some 0 => exact ih false (some 0)
    | some (n + 1) => exact ih true (some n)

theorem accepted_bind (t : Producer α ρ) (k : ρ → Producer α τ) (room : Option ℕ) :
    (t.bind k).accepted room = t.accepted room ++ (k (t.result room)).accepted (t.left room) := by
  induction t generalizing room with
  | done r => rfl
  | send item next ih =>
    match room with
    | none => exact congrArg (item :: ·) (ih true none)
    | some 0 => exact ih false (some 0)
    | some (n + 1) => exact congrArg (item :: ·) (ih true (some n))

/-- A receiver that is gone accepts nothing. -/
theorem accepted_zero (t : Producer α ρ) : t.accepted (some 0) = [] := by
  induction t with
  | done r => rfl
  | send item next ih => exact ih false

/-- A receiver that goes has taken the first items of those it would have been offered. -/
theorem accepted_some (t : Producer α ρ) (n : ℕ) :
    t.accepted (some n) = (t.accepted none).take n := by
  induction t generalizing n with
  | done r => exact List.take_nil.symm
  | send item next ih =>
    cases n with
    | zero => rw [accepted_zero, List.take_zero]
    | succ n => rw [accepted, accepted, List.take_succ_cons, ih]

theorem accepted_isPrefix (t : Producer α ρ) (room : Option ℕ) :
    t.accepted room <+: t.accepted none := by
  cases room with
  | none => exact List.prefix_rfl
  | some n =>
    rw [accepted_some]
    exact List.take_prefix _ _

/-! ### What is left of a producer -/

/-- `t'` is left of `t` when the items `sent` have been accepted. -/
def Sent (t : Producer α ρ) (sent : List α) (t' : Producer α ρ) : Prop :=
  ∀ room : Option ℕ, t.result (room.map (sent.length + ·)) = t'.result room ∧
    t.accepted (room.map (sent.length + ·)) = sent ++ t'.accepted room

/-- `t'` is left of `t` when the items `sent` have been accepted and the next one was refused. -/
def Stopped (t : Producer α ρ) (sent : List α) (t' : Producer α ρ) : Prop :=
  t.result (some sent.length) = t'.result (some 0) ∧ t.accepted (some sent.length) = sent

theorem Sent.refl (t : Producer α ρ) : Sent t [] t := by
  intro room
  cases room with
  | none => exact ⟨rfl, rfl⟩
  | some n => simp

variable {t : Producer α ρ} {sent : List α} {item : α} {next : Bool → Producer α ρ}

theorem Sent.push (h : Sent t sent (send item next)) : Sent t (sent ++ [item]) (next true) := by
  intro room
  have hroom : room.map ((sent ++ [item]).length + ·) =
      (room.map (· + 1)).map (sent.length + ·) := by
    cases room with
    | none => rfl
    | some n => simp [Nat.add_assoc, Nat.add_comm 1]
  obtain ⟨hresult, haccepted⟩ := h (room.map (· + 1))
  rw [hroom, hresult, haccepted, List.append_assoc]
  cases room with
  | none => exact ⟨rfl, rfl⟩
  | some n => exact ⟨rfl, rfl⟩

theorem Sent.refuse (h : Sent t sent (send item next)) : Stopped t sent (next false) := by
  obtain ⟨hresult, haccepted⟩ := h (some 0)
  refine ⟨hresult, ?_⟩
  rw [accepted_zero, List.append_nil] at haccepted
  exact haccepted

theorem Stopped.refuse (h : Stopped t sent (send item next)) : Stopped t sent (next false) := h

/-- A producer that came to its end ran with some room, a bounded one only if something was
refused. -/
theorem exists_room {gone : Prop} {r : ρ}
    (h : Sent t sent (done r) ∨ gone ∧ Stopped t sent (done r)) :
    ∃ room, t.result room = r ∧ t.accepted room = sent ∧ (room = none ∨ gone) := by
  obtain h | ⟨hgone, h⟩ := h
  · obtain ⟨hresult, haccepted⟩ := h none
    exact ⟨none, hresult, haccepted.trans (List.append_nil sent), Or.inl rfl⟩
  · exact ⟨some sent.length, h.1, h.2, Or.inr hgone⟩

/-- What was accepted so far comes first among the items the producer has to offer. -/
theorem sent_prefix {gone : Prop} {t' : Producer α ρ}
    (h : Sent t sent t' ∨ gone ∧ Stopped t sent t') : sent <+: t.accepted none := by
  obtain h | ⟨-, h⟩ := h
  · rw [show t.accepted none = sent ++ t'.accepted none from (h none).2]
    exact List.prefix_append _ _
  · have hprefix := t.accepted_isPrefix (some sent.length)
    rwa [h.2] at hprefix

end Producer

/-! ## Channels -/

/-- A channel: what is queued, what was received, and whether the receiver is still there. -/
structure Chan (α : Type) where
  queue : List α
  received : List α
  connected : Bool

namespace Chan

variable {α : Type} {ch : Chan α} {sent : List α} {item : α} {queue : List α}

/-- A channel that was just made. -/
def fresh : Chan α := ⟨[], [], true⟩

def push (item : α) (ch : Chan α) : Chan α := { ch with queue := ch.queue ++ [item] }

/-- The consumer takes the first item, and `queue` is what remains. -/
def receive (item : α) (queue : List α) (ch : Chan α) : Chan α :=
  { ch with queue := queue, received := ch.received ++ [item] }

/-- The receiver goes, and what is queued goes with it. -/
def disconnect (ch : Chan α) : Chan α := { ch with queue := [], connected := false }

/-- The channel has handed out the items `sent` in order, as far as they were asked for; nothing is
lost of them unless the receiver is gone. -/
structure Delivers (sent : List α) (ch : Chan α) : Prop where
  ordered : ch.received ++ ch.queue <+: sent
  complete : ch.connected = true → ch.received ++ ch.queue = sent

theorem Delivers.fresh : Delivers [] (fresh : Chan α) := ⟨List.prefix_rfl, fun _ ↦ rfl⟩

theorem Delivers.push (h : Delivers sent ch) (hch : ch.connected = true) :
    Delivers (sent ++ [item]) (ch.push item) := by
  have hsent : (ch.push item).received ++ (ch.push item).queue = sent ++ [item] := by
    rw [← h.complete hch, List.append_assoc]
    rfl
  exact ⟨by rw [hsent], fun _ ↦ hsent⟩

theorem Delivers.receive (h : Delivers sent ch) (hqueue : ch.queue = item :: queue) :
    Delivers sent (ch.receive item queue) := by
  have hsame : (ch.receive item queue).received ++ (ch.receive item queue).queue =
      ch.received ++ ch.queue := by
    rw [hqueue, Chan.receive, List.append_assoc, List.singleton_append]
  exact ⟨hsame ▸ h.ordered, fun hch ↦ hsame.trans (h.complete hch)⟩

theorem Delivers.disconnect (h : Delivers sent ch) : Delivers sent ch.disconnect where
  ordered := (List.append_nil ch.received).symm ▸ (List.prefix_append _ _).trans h.ordered
  complete hch := absurd hch Bool.false_ne_true

/-- What a channel still holds at most: its items and its receiver. -/
def weight (ch : Chan α) : ℕ := ch.queue.length + ch.connected.toNat

end Chan

/-! ## The system -/

/-- The jobs sent so far, the results of those that are finished, the server, which is idle or at
work on the next job, and the channel of every job. -/
structure System (σ β α ρ : Type) where
  jobs : List β
  finished : List ρ
  server : σ ⊕ Producer α ρ
  chan : ℕ → Chan α

namespace System

variable {σ β α ρ : Type}

/-- A server that nothing was sent to. -/
def init (s : σ) : System σ β α ρ := ⟨[], [], .inl s, fun _ ↦ .fresh⟩

/-- The number of the job at hand, or of the next one. -/
def turn (c : System σ β α ρ) : ℕ := c.finished.length

def setChan (c : System σ β α ρ) (i : ℕ) (ch : Chan α) : System σ β α ρ :=
  { c with chan := Function.update c.chan i ch }

/-- Hands a job to the server. -/
def submit (c : System σ β α ρ) (job : β) : System σ β α ρ := { c with jobs := c.jobs ++ [job] }

def work (c : System σ β α ρ) (t : Producer α ρ) : System σ β α ρ := { c with server := .inr t }

def finish (c : System σ β α ρ) (s : σ) (r : ρ) : System σ β α ρ :=
  { c with server := .inl s, finished := c.finished ++ [r] }

theorem setChan_self (c : System σ β α ρ) (i : ℕ) (ch : Chan α) : (c.setChan i ch).chan i = ch := by
  show Function.update c.chan i ch i = ch
  exact Function.update_self _ _ _

theorem setChan_of_ne (c : System σ β α ρ) {i j : ℕ} (ch : Chan α) (h : j ≠ i) :
    (c.setChan i ch).chan j = c.chan j := by
  show Function.update c.chan i ch j = c.chan j
  exact Function.update_of_ne h _ _

/-- The consumer of the `i`-th job sees a beginning of `whole`.  If it is still there when the job
is finished, nothing of it is lost. -/
structure Shows (c : System σ β α ρ) (i : ℕ) (whole : List α) : Prop where
  beginning : (c.chan i).received <+: whole
  complete : i < c.turn → (c.chan i).connected = true →
    (c.chan i).received ++ (c.chan i).queue = whole

/-- Every channel holds at most `capacity` items. -/
def Bounded (capacity : ℕ) (c : System σ β α ρ) : Prop :=
  ∀ i, (c.chan i).queue.length ≤ capacity

end System

section Moves

variable {σ β α ρ : Type} (serve : σ → β → Producer α ρ) (state : ρ → σ) (capacity : ℕ)

/-- What the server does next.  A send waits until the channel has room or its receiver is gone. -/
inductive Act : System σ β α ρ → System σ β α ρ → Prop
  | start {c : System σ β α ρ} {s : σ} {job : β} (hserver : c.server = .inl s)
      (hjob : c.jobs[c.turn]? = some job) : Act c (c.work (serve s job))
  | push {c : System σ β α ρ} {item : α} {next : Bool → Producer α ρ}
      (hserver : c.server = .inr (.send item next)) (hchan : (c.chan c.turn).connected = true)
      (hroom : (c.chan c.turn).queue.length < capacity) :
      Act c ((c.setChan c.turn ((c.chan c.turn).push item)).work (next true))
  | refuse {c : System σ β α ρ} {item : α} {next : Bool → Producer α ρ}
      (hserver : c.server = .inr (.send item next)) (hchan : (c.chan c.turn).connected = false) :
      Act c (c.work (next false))
  | finish {c : System σ β α ρ} {r : ρ} (hserver : c.server = .inr (.done r)) :
      Act c (c.finish (state r) r)

/-- A consumer receives an item. -/
inductive Receive : System σ β α ρ → System σ β α ρ → Prop
  | receive {c : System σ β α ρ} {i : ℕ} {item : α} {queue : List α} (hjob : i < c.jobs.length)
      (hqueue : (c.chan i).queue = item :: queue) :
      Receive c (c.setChan i ((c.chan i).receive item queue))

/-- The server acts, or a consumer receives an item or goes. -/
inductive Move : System σ β α ρ → System σ β α ρ → Prop
  | act {c c' : System σ β α ρ} (h : Act serve state capacity c c') : Move c c'
  | receive {c c' : System σ β α ρ} (h : Receive c c') : Move c c'
  | disconnect {c : System σ β α ρ} {i : ℕ} (hjob : i < c.jobs.length)
      (hchan : (c.chan i).connected = true) : Move c (c.setChan i (c.chan i).disconnect)

/-- A move, or a further job. -/
inductive Step : System σ β α ρ → System σ β α ρ → Prop
  | move {c c' : System σ β α ρ} (h : Move serve state capacity c c') : Step c c'
  | submit (c : System σ β α ρ) (job : β) : Step c (c.submit job)

/-- What can be reached from an idle server. -/
def Reaches (s : σ) (c : System σ β α ρ) : Prop :=
  Relation.ReflTransGen (Step serve state capacity) (.init s) c

/-! ## One job after the other -/

/-- The results of jobs that run one after the other, each with its room, and what was accepted. -/
def sequential : σ → List (β × Option ℕ) → List (ρ × List α)
  | _, [] => []
  | s, (job, room) :: past =>
    ((serve s job).result room, (serve s job).accepted room) ::
      sequential (state ((serve s job).result room)) past

/-- The state such a run leaves. -/
def after (s : σ) (past : List (β × Option ℕ)) : σ :=
  past.foldl (fun s p ↦ state ((serve s p.1).result p.2)) s

variable {serve state capacity}

theorem sequential_concat (s : σ) (past : List (β × Option ℕ)) (job : β) (room : Option ℕ) :
    sequential serve state s (past ++ [(job, room)]) = sequential serve state s past ++
      [((serve (after serve state s past) job).result room,
        (serve (after serve state s past) job).accepted room)] := by
  induction past generalizing s with
  | nil => rfl
  | cons p past ih =>
    rw [List.cons_append, sequential, sequential, ih]
    rfl

theorem after_concat (s : σ) (past : List (β × Option ℕ)) (job : β) (room : Option ℕ) :
    after serve state s (past ++ [(job, room)]) =
      state ((serve (after serve state s past) job).result room) := by
  rw [after, List.foldl_append]
  rfl

variable (serve state) in
theorem getElem?_sequential (s : σ) (past : List (β × Option ℕ)) (i : ℕ) :
    (sequential serve state s past)[i]? = past[i]?.map fun p ↦
      ((serve (after serve state s (past.take i)) p.1).result p.2,
        (serve (after serve state s (past.take i)) p.1).accepted p.2) := by
  induction past generalizing s i with
  | nil => rfl
  | cons p past ih =>
    cases i with
    | zero => rfl
    | succ i => exact ih _ i

theorem length_sequential (s : σ) (past : List (β × Option ℕ)) :
    (sequential serve state s past).length = past.length := by
  induction past generalizing s with
  | nil => rfl
  | cons p past ih => rw [sequential, List.length_cons, List.length_cons, ih]

/-! ## Every interleaving is sequential -/

/-- The server, which was in state `s`, is at work on the job at hand: what was accepted of it, what
is left of it, and whether something was refused. -/
def Working (serve : σ → β → Producer α ρ) (s : σ) (c : System σ β α ρ) (t : Producer α ρ) :
    Prop :=
  ∃ job sent, c.jobs[c.turn]? = some job ∧ (c.chan c.turn).Delivers sent ∧
    ((serve s job).Sent sent t ∨
      (c.chan c.turn).connected = false ∧ (serve s job).Stopped sent t)

/-- The system has come as far as a run of one job after the other, with the rooms of `past`. -/
structure Linearized (serve : σ → β → Producer α ρ) (state : ρ → σ) (s : σ) (c : System σ β α ρ)
    (past : List (β × Option ℕ)) : Prop where
  jobs : past.map Prod.fst <+: c.jobs
  finished : (sequential serve state s past).map Prod.fst = c.finished
  delivered : ∀ i r sent, (sequential serve state s past)[i]? = some (r, sent) →
    (c.chan i).Delivers sent
  /-- A consumer that is still there has taken part in the whole of its job. -/
  stayed : ∀ i p, past[i]? = some p → (c.chan i).connected = true → p.2 = none
  server : match c.server with
    | .inl s' => s' = after serve state s past ∧ (c.chan c.turn).Delivers []
    | .inr t => Working serve (after serve state s past) c t
  waiting : ∀ i, c.turn < i → (c.chan i).Delivers []

namespace Linearized

variable {s : σ} {c : System σ β α ρ} {past : List (β × Option ℕ)}

theorem length_past (h : Linearized serve state s c past) : past.length = c.turn := by
  rw [System.turn, ← h.finished, List.length_map, length_sequential]

theorem init (s : σ) : Linearized serve state s (.init s) [] where
  jobs := List.nil_prefix
  finished := rfl
  delivered i r sent h := absurd h (by simp [sequential])
  stayed i p h := absurd h (by simp)
  server := ⟨rfl, .fresh⟩
  waiting _ _ := .fresh

/-- A channel may go on to any state that delivers what it delivered before. -/
theorem setChan (h : Linearized serve state s c past) {i : ℕ} {ch : Chan α}
    (hdelivers : ∀ sent, (c.chan i).Delivers sent → ch.Delivers sent)
    (hgone : (c.chan i).connected = false → ch.connected = false) :
    Linearized serve state s (c.setChan i ch) past := by
  have hkeeps (j : ℕ) (sent : List α) (hj : (c.chan j).Delivers sent) :
      ((c.setChan i ch).chan j).Delivers sent := by
    by_cases hij : j = i
    · subst hij
      rw [System.setChan_self]
      exact hdelivers sent hj
    · rw [System.setChan_of_ne c ch hij]
      exact hj
  have hstays (j : ℕ) (hj : (c.chan j).connected = false) :
      ((c.setChan i ch).chan j).connected = false := by
    by_cases hij : j = i
    · subst hij
      rw [System.setChan_self]
      exact hgone hj
    · rw [System.setChan_of_ne c ch hij]
      exact hj
  refine ⟨h.jobs, h.finished, fun j r sent hj ↦ hkeeps j sent (h.delivered j r sent hj),
    fun j p hj hconnected ↦ h.stayed j p hj ?_, ?_, fun j hj ↦ hkeeps j [] (h.waiting j hj)⟩
  · rw [← Bool.not_eq_false]
    exact fun hgone ↦ by rw [hstays j hgone] at hconnected; cases hconnected
  have hserver := h.server
  show match c.server with
    | .inl s' => s' = after serve state s past ∧ ((c.setChan i ch).chan c.turn).Delivers []
    | .inr t => Working serve (after serve state s past) (c.setChan i ch) t
  split at hserver
  · exact ⟨hserver.1, hkeeps _ _ hserver.2⟩
  · obtain ⟨job, sent, hjob, hchan, ht⟩ := hserver
    exact ⟨job, sent, hjob, hkeeps _ _ hchan, ht.imp_right (And.imp_left (hstays _))⟩

theorem submit (h : Linearized serve state s c past) (job : β) :
    Linearized serve state s (c.submit job) past := by
  refine ⟨h.jobs.trans (List.prefix_append _ _), h.finished, h.delivered, h.stayed, ?_, h.waiting⟩
  have hserver := h.server
  show match c.server with
    | .inl s' => s' = after serve state s past ∧ (c.chan c.turn).Delivers []
    | .inr t => Working serve (after serve state s past) (c.submit job) t
  split at hserver
  · exact hserver
  · obtain ⟨job', sent, hjob, hrest⟩ := hserver
    refine ⟨job', sent, ?_, hrest⟩
    obtain ⟨hlt, hget⟩ := List.getElem?_eq_some_iff.1 hjob
    exact (List.getElem?_append_left hlt).trans hjob

/-- The server at work, with the channel of its job. -/
theorem working (h : Linearized serve state s c past) {t : Producer α ρ}
    (hserver : c.server = .inr t) : Working serve (after serve state s past) c t := by
  have hworking := h.server
  rw [hserver] at hworking
  exact hworking

/-- The server goes on with its job. -/
theorem work (h : Linearized serve state s c past) {t : Producer α ρ}
    (ht : Working serve (after serve state s past) c t) :
    Linearized serve state s (c.work t) past :=
  ⟨h.jobs, h.finished, h.delivered, h.stayed, ht, h.waiting⟩

theorem start (h : Linearized serve state s c past) {s' : σ} {job : β}
    (hserver : c.server = .inl s') (hjob : c.jobs[c.turn]? = some job) :
    Linearized serve state s (c.work (serve s' job)) past := by
  have hidle := h.server
  rw [hserver] at hidle
  obtain ⟨rfl, hchan⟩ := hidle
  exact h.work ⟨job, [], hjob, hchan, Or.inl (.refl _)⟩

theorem push (h : Linearized serve state s c past) {item : α} {next : Bool → Producer α ρ}
    (hserver : c.server = .inr (.send item next)) (hchan : (c.chan c.turn).connected = true) :
    Linearized serve state s ((c.setChan c.turn ((c.chan c.turn).push item)).work (next true))
      past := by
  obtain ⟨job, sent, hjob, hdelivers, hsent | ⟨hgone, -⟩⟩ := h.working hserver
  · have hother (i : ℕ) (hi : i ≠ c.turn) :
        (c.setChan c.turn ((c.chan c.turn).push item)).chan i = c.chan i :=
      c.setChan_of_ne _ hi
    refine ⟨h.jobs, h.finished, fun i r sent' hi ↦ ?_, fun i p hi hconnected ↦ ?_, ?_,
      fun i hi ↦ ?_⟩
    · obtain ⟨hlt, -⟩ := List.getElem?_eq_some_iff.1 hi
      rw [length_sequential, h.length_past] at hlt
      show ((c.setChan c.turn _).chan i).Delivers sent'
      rw [hother i hlt.ne]
      exact h.delivered i r sent' hi
    · obtain ⟨hlt, -⟩ := List.getElem?_eq_some_iff.1 hi
      rw [h.length_past] at hlt
      refine h.stayed i p hi ?_
      rw [← hother i hlt.ne]
      exact hconnected
    · refine ⟨job, sent ++ [item], hjob, ?_, Or.inl hsent.push⟩
      show ((c.setChan c.turn ((c.chan c.turn).push item)).chan c.turn).Delivers _
      rw [System.setChan_self]
      exact hdelivers.push hchan
    · show ((c.setChan c.turn _).chan i).Delivers []
      rw [hother i (Nat.ne_of_gt hi)]
      exact h.waiting i hi
  · rw [hchan] at hgone
    cases hgone

theorem refuse (h : Linearized serve state s c past) {item : α} {next : Bool → Producer α ρ}
    (hserver : c.server = .inr (.send item next)) (hchan : (c.chan c.turn).connected = false) :
    Linearized serve state s (c.work (next false)) past := by
  obtain ⟨job, sent, hjob, hdelivers, ht⟩ := h.working hserver
  refine h.work ⟨job, sent, hjob, hdelivers, Or.inr ⟨hchan, ?_⟩⟩
  exact ht.elim Producer.Sent.refuse fun hstopped ↦ hstopped.2.refuse

/-- A job that comes to its end joins the past with the room it turned out to have. -/
theorem finish (h : Linearized serve state s c past) {r : ρ} (hserver : c.server = .inr (.done r)) :
    ∃ past', Linearized serve state s (c.finish (state r) r) past' := by
  obtain ⟨job, sent, hjob, hdelivers, ht⟩ := h.working hserver
  obtain ⟨room, rfl, rfl, hroom⟩ := Producer.exists_room ht
  have hturn : (c.finish (state ((serve (after serve state s past) job).result room))
      ((serve (after serve state s past) job).result room)).turn = c.turn + 1 := by
    rw [System.finish, System.turn, List.length_append]
    rfl
  refine ⟨past ++ [(job, room)], ?_, ?_, ?_, ?_, ?_, ?_⟩
  · obtain ⟨rest, hrest⟩ := h.jobs
    have hlength : (past.map Prod.fst).length = c.turn := by rw [List.length_map, h.length_past]
    show (past ++ [(job, room)]).map Prod.fst <+: c.jobs
    rw [← hrest] at hjob ⊢
    rw [← hlength, List.getElem?_append_right le_rfl, Nat.sub_self] at hjob
    cases rest with
    | nil => cases hjob
    | cons job' rest =>
      cases hjob
      exact ⟨rest, by simp⟩
  · rw [sequential_concat, List.map_append, h.finished]
    rfl
  · intro i r sent hi
    rw [sequential_concat] at hi
    obtain hlt | rfl | hgt := Nat.lt_trichotomy i c.turn
    · rw [List.getElem?_append_left (by rwa [length_sequential, h.length_past])] at hi
      exact h.delivered i r sent hi
    · rw [List.getElem?_append_right (by rw [length_sequential, h.length_past]),
        length_sequential, h.length_past, Nat.sub_self] at hi
      cases hi
      exact hdelivers
    · rw [List.getElem?_eq_none (by
        rw [List.length_append, length_sequential, h.length_past]
        exact hgt)] at hi
      cases hi
  · intro i p hi hconnected
    obtain hlt | rfl | hgt := Nat.lt_trichotomy i c.turn
    · rw [List.getElem?_append_left (by rwa [h.length_past])] at hi
      exact h.stayed i p hi hconnected
    · rw [List.getElem?_append_right h.length_past.le, h.length_past, Nat.sub_self] at hi
      cases hi
      refine hroom.resolve_right fun hgone ↦ ?_
      rw [show (c.chan c.turn).connected = true from hconnected] at hgone
      cases hgone
    · rw [List.getElem?_eq_none (by
        rw [List.length_append, h.length_past]
        exact hgt)] at hi
      cases hi
  · refine ⟨(after_concat s past job room).symm, ?_⟩
    rw [hturn]
    exact h.waiting _ (Nat.lt_succ_self _)
  · intro i hi
    rw [hturn] at hi
    exact h.waiting i (Nat.lt_of_succ_lt hi)

/-- The jobs of the past are the first that were sent. -/
theorem getElem?_past (h : Linearized serve state s c past) {i : ℕ} {job : β} (hi : i < c.turn)
    (hjob : c.jobs[i]? = some job) : ∃ room, past[i]? = some (job, room) := by
  obtain ⟨rest, hrest⟩ := h.jobs
  rw [← h.length_past] at hi
  refine ⟨past[i].2, ?_⟩
  rw [← hrest, List.getElem?_append_left (by rwa [List.length_map]), List.getElem?_map,
    List.getElem?_eq_getElem hi] at hjob
  rw [List.getElem?_eq_getElem hi]
  cases hjob
  rfl

/-- **What a consumer has received.**  It is a beginning of what its job offers to a consumer that
stays. -/
theorem received_prefix (h : Linearized serve state s c past) {i : ℕ} {job : β} (hi : i ≤ c.turn)
    (hjob : c.jobs[i]? = some job) :
    (c.chan i).received <+: (serve (after serve state s (past.take i)) job).accepted none := by
  obtain hlt | rfl := Nat.lt_or_eq_of_le hi
  · obtain ⟨room, hpast⟩ := h.getElem?_past hlt hjob
    have hseq := getElem?_sequential serve state s past i
    rw [hpast] at hseq
    exact (List.prefix_append _ _).trans
      ((h.delivered i _ _ hseq).ordered.trans (Producer.accepted_isPrefix _ room))
  · cases hserver : c.server with
    | inl s' =>
      have hidle := h.server
      rw [hserver] at hidle
      exact (List.prefix_append _ _).trans (hidle.2.ordered.trans List.nil_prefix)
    | inr t =>
      obtain ⟨job', sent, hjob', hdelivers, ht⟩ := h.working hserver
      rw [hjob'] at hjob
      cases hjob
      rw [List.take_of_length_le h.length_past.le]
      exact (List.prefix_append _ _).trans
        (hdelivers.ordered.trans (Producer.sent_prefix ht))

/-- **A consumer that stays misses nothing** of a finished job: what it has not received is in the
channel. -/
theorem received_complete (h : Linearized serve state s c past) {i : ℕ} {job : β} (hi : i < c.turn)
    (hjob : c.jobs[i]? = some job) (hconnected : (c.chan i).connected = true) :
    (c.chan i).received ++ (c.chan i).queue =
      (serve (after serve state s (past.take i)) job).accepted none := by
  obtain ⟨room, hpast⟩ := h.getElem?_past hi hjob
  obtain rfl : room = none := h.stayed i _ hpast hconnected
  have hseq := getElem?_sequential serve state s past i
  rw [hpast] at hseq
  exact (h.delivered i _ _ hseq).complete hconnected

theorem shows (h : Linearized serve state s c past) {i : ℕ} {job : β} (hi : i ≤ c.turn)
    (hjob : c.jobs[i]? = some job) :
    c.Shows i ((serve (after serve state s (past.take i)) job).accepted none) :=
  ⟨h.received_prefix hi hjob, fun hlt ↦ h.received_complete hlt hjob⟩

/-- Before its turn a consumer has seen nothing. -/
theorem shows_of_turn_lt (h : Linearized serve state s c past) {i : ℕ} (hi : c.turn < i)
    (whole : List α) : c.Shows i whole where
  beginning := (List.prefix_append _ _).trans ((h.waiting i hi).ordered.trans List.nil_prefix)
  complete hlt := absurd hlt hi.le.not_gt

theorem getElem?_finished (h : Linearized serve state s c past) {i : ℕ} {job : β} {r : ρ}
    (hjob : c.jobs[i]? = some job) (hr : c.finished[i]? = some r) :
    ∃ room, r = (serve (after serve state s (past.take i)) job).result room := by
  obtain ⟨room, hpast⟩ := h.getElem?_past (List.getElem?_eq_some_iff.1 hr).1 hjob
  rw [← h.finished, List.getElem?_map, getElem?_sequential, hpast] at hr
  exact ⟨room, (Option.some.inj hr).symm⟩

theorem act (h : Linearized serve state s c past) {c' : System σ β α ρ}
    (hact : Act serve state capacity c c') : ∃ past', Linearized serve state s c' past' := by
  cases hact with
  | start hserver hjob => exact ⟨past, h.start hserver hjob⟩
  | push hserver hchan _ => exact ⟨past, h.push hserver hchan⟩
  | refuse hserver hchan => exact ⟨past, h.refuse hserver hchan⟩
  | finish hserver => exact h.finish hserver

theorem step (h : Linearized serve state s c past) {c' : System σ β α ρ}
    (hstep : Step serve state capacity c c') : ∃ past', Linearized serve state s c' past' := by
  cases hstep with
  | submit job => exact ⟨past, h.submit job⟩
  | move hmove =>
    cases hmove with
    | act hact => exact h.act hact
    | receive hreceive =>
      obtain ⟨-, hqueue⟩ := hreceive
      exact ⟨past, h.setChan (fun _ hd ↦ hd.receive hqueue) id⟩
    | disconnect _ _ => exact ⟨past, h.setChan (fun _ hd ↦ hd.disconnect) fun _ ↦ rfl⟩

end Linearized

/-- **Every interleaving is sequential.**  Whatever the server and the consumers have done, the
finished jobs are those of a run of one after the other, and every channel has handed out what that
run says, in order. -/
theorem linearized_of_reaches {s : σ} {c : System σ β α ρ}
    (h : Reaches serve state capacity s c) : ∃ past, Linearized serve state s c past := by
  induction h with
  | refl => exact ⟨[], .init s⟩
  | tail _ hstep ih =>
    obtain ⟨past, hpast⟩ := ih
    exact hpast.step hstep

/-! ## Servers that agree where it matters -/

/-- An idle server is in its first state, or in the one that a finished job has left. -/
theorem idle_of_reaches {s s' : σ} {c : System σ β α ρ} (h : Reaches serve state capacity s c)
    (hserver : c.server = .inl s') : s' = s ∨ ∃ r ∈ c.finished, s' = state r := by
  induction h generalizing s' with
  | refl => exact Or.inl (Sum.inl.inj hserver).symm
  | tail _ hstep ih =>
    cases hstep with
    | submit job => exact ih hserver
    | move hmove =>
      cases hmove with
      | receive hreceive =>
        obtain ⟨-, -⟩ := hreceive
        exact ih hserver
      | disconnect _ _ => exact ih hserver
      | act hact =>
        cases hact with
        | start _ _ => cases hserver
        | push _ _ _ => cases hserver
        | refuse _ _ => cases hserver
        | finish hdone => exact Or.inr ⟨_, by simp [System.finish], (Sum.inl.inj hserver).symm⟩

/-- What is finished stays finished. -/
theorem finished_subset_of_step {c c' : System σ β α ρ} (h : Step serve state capacity c c') :
    c.finished ⊆ c'.finished := by
  cases h with
  | submit job => exact List.Subset.refl _
  | move hmove =>
    cases hmove with
    | receive hreceive =>
      obtain ⟨-, -⟩ := hreceive
      exact List.Subset.refl _
    | disconnect _ _ => exact List.Subset.refl _
    | act hact =>
      cases hact with
      | finish _ => exact List.subset_append_left _ _
      | _ => exact List.Subset.refl _

/-- **Servers that agree in the states that come up.**  A system whose finished jobs have all left
states in which two servers agree can be reached with either of them. -/
theorem reaches_of_agree {serve' : σ → β → Producer α ρ} {P : σ → Prop}
    (hagree : ∀ s job, P s → serve' s job = serve s job) {s : σ} (hs : P s) {c : System σ β α ρ}
    (h : Reaches serve' state capacity s c) (hfinished : ∀ r ∈ c.finished, P (state r)) :
    Reaches serve state capacity s c := by
  induction h with
  | refl => exact .refl
  | @tail c c' hprev hstep ih =>
    have hbefore : ∀ r ∈ c.finished, P (state r) :=
      fun r hr ↦ hfinished r (finished_subset_of_step hstep hr)
    refine (ih hbefore).tail ?_
    cases hstep with
    | submit job => exact .submit c job
    | move hmove =>
      refine .move ?_
      cases hmove with
      | receive hreceive => exact .receive hreceive
      | disconnect hjob hchan => exact .disconnect hjob hchan
      | act hact =>
        refine .act ?_
        cases hact with
        | push hserver hchan hroom => exact .push hserver hchan hroom
        | refuse hserver hchan => exact .refuse hserver hchan
        | finish hserver => exact .finish hserver
        | @start s' job hserver hjob =>
          have hidle : P s' := by
            obtain rfl | ⟨r, hr, rfl⟩ := idle_of_reaches hprev hserver
            · exact hs
            · exact hbefore r hr
          rw [hagree s' job hidle]
          exact .start hserver hjob

/-! ## No deadlock -/

theorem bounded_of_act {c c' : System σ β α ρ} (h : c.Bounded capacity)
    (hact : Act serve state capacity c c') : c'.Bounded capacity := by
  cases hact with
  | push hserver hchan hroom =>
    intro i
    show ((c.setChan c.turn _).chan i).queue.length ≤ capacity
    by_cases hi : i = c.turn
    · subst hi
      rw [System.setChan_self, Chan.push, List.length_append]
      exact hroom
    · rw [System.setChan_of_ne c _ hi]
      exact h i
  | _ => exact h

theorem bounded_setChan {c : System σ β α ρ} (h : c.Bounded capacity) {i : ℕ} {ch : Chan α}
    (hch : ch.queue.length ≤ (c.chan i).queue.length) : (c.setChan i ch).Bounded capacity := by
  intro j
  by_cases hj : j = i
  · subst hj
    rw [System.setChan_self]
    exact hch.trans (h j)
  · rw [System.setChan_of_ne c ch hj]
    exact h j

/-- No channel ever holds more than its capacity. -/
theorem bounded_of_reaches {s : σ} {c : System σ β α ρ} (h : Reaches serve state capacity s c) :
    c.Bounded capacity := by
  induction h with
  | refl => exact fun _ ↦ Nat.zero_le _
  | tail _ hstep ih =>
    cases hstep with
    | submit job => exact ih
    | move hmove =>
      cases hmove with
      | act hact => exact bounded_of_act ih hact
      | receive hreceive =>
        obtain ⟨-, hqueue⟩ := hreceive
        exact bounded_setChan ih (by rw [hqueue]; exact Nat.le_succ _)
      | disconnect _ _ => exact bounded_setChan ih (Nat.zero_le _)

/-- **Only a full channel stops the server.**  It has finished every job, or it can act, or it waits
for the consumer of the job at hand, whose channel is full. -/
theorem act_of_reaches {s : σ} {c : System σ β α ρ} (h : Reaches serve state capacity s c) :
    c.turn = c.jobs.length ∨ (∃ c', Act serve state capacity c c') ∨ c.turn < c.jobs.length ∧
      (c.chan c.turn).connected = true ∧ (c.chan c.turn).queue.length = capacity := by
  obtain ⟨past, hpast⟩ := linearized_of_reaches h
  have hle : c.turn ≤ c.jobs.length := by
    rw [← hpast.length_past, ← List.length_map (f := Prod.fst)]
    exact hpast.jobs.length_le
  cases hserver : c.server with
  | inl s' =>
    obtain heq | hlt := Nat.eq_or_lt_of_le hle
    · exact Or.inl heq
    · exact Or.inr (Or.inl ⟨_, .start hserver (List.getElem?_eq_getElem hlt)⟩)
  | inr t =>
    obtain ⟨job, sent, hjob, -, -⟩ := hpast.working hserver
    obtain ⟨hlt, -⟩ := List.getElem?_eq_some_iff.1 hjob
    refine Or.inr ?_
    cases t with
    | done r => exact Or.inl ⟨_, .finish hserver⟩
    | send item next =>
      cases hchan : (c.chan c.turn).connected with
      | false => exact Or.inl ⟨_, .refuse hserver hchan⟩
      | true =>
        obtain heq | hroom := Nat.eq_or_lt_of_le (bounded_of_reaches h c.turn)
        · exact Or.inr ⟨hlt, rfl, heq⟩
        · exact Or.inl ⟨_, .push hserver hchan hroom⟩

/-- The server cannot act, and no consumer has anything to receive. -/
def Quiet (serve : σ → β → Producer α ρ) (state : ρ → σ) (capacity : ℕ) (c : System σ β α ρ) :
    Prop :=
  (∀ c', ¬ Act serve state capacity c c') ∧ ∀ c', ¬ Receive c c'

/-- **No deadlock.**  A system that has come to rest has finished every job, and every consumer that
is still there has received all that was sent to it. -/
theorem finished_of_quiet (hcapacity : 0 < capacity) {s : σ} {c : System σ β α ρ}
    (h : Reaches serve state capacity s c) (hquiet : Quiet serve state capacity c) :
    c.turn = c.jobs.length ∧ ∀ i, (c.chan i).queue = [] := by
  have hempty (i : ℕ) (hi : i < c.jobs.length) : (c.chan i).queue = [] := by
    cases hqueue : (c.chan i).queue with
    | nil => rfl
    | cons item queue => exact absurd (.receive hi hqueue) (hquiet.2 _)
  obtain hturn | ⟨c', hact⟩ | ⟨hlt, -, hfull⟩ := act_of_reaches h
  · refine ⟨hturn, fun i ↦ ?_⟩
    obtain hi | hi := Nat.lt_or_ge i c.jobs.length
    · exact hempty i hi
    obtain ⟨past, hpast⟩ := linearized_of_reaches h
    have hnothing (hdelivers : (c.chan i).Delivers []) : (c.chan i).queue = [] :=
      (List.append_eq_nil_iff.1 (List.prefix_nil.1 hdelivers.ordered)).2
    obtain rfl | hlt := Nat.eq_or_lt_of_le (hturn.trans_le hi)
    · cases hserver : c.server with
      | inl s' =>
        have hidle := hpast.server
        rw [hserver] at hidle
        exact hnothing hidle.2
      | inr t =>
        obtain ⟨job, sent, hjob, -⟩ := hpast.working hserver
        obtain ⟨hlt, -⟩ := List.getElem?_eq_some_iff.1 hjob
        exact hempty _ hlt
    · exact hnothing (hpast.waiting i hlt)
  · exact absurd hact (hquiet.1 c')
  · rw [hempty _ hlt] at hfull
    exact absurd hfull hcapacity.ne

/-! ## Termination -/

/-- What the channels of the jobs still hold. -/
def System.load (c : System σ β α ρ) : ℕ := ∑ i ∈ Finset.range c.jobs.length, (c.chan i).weight

theorem load_setChan_lt {c : System σ β α ρ} {i : ℕ} {ch : Chan α} (hi : i < c.jobs.length)
    (h : ch.weight < (c.chan i).weight) : (c.setChan i ch).load < c.load := by
  refine Finset.sum_lt_sum (fun j _ ↦ ?_) ⟨i, Finset.mem_range.2 hi, ?_⟩
  · by_cases hj : j = i
    · subst hj
      rw [System.setChan_self]
      exact h.le
    · rw [System.setChan_of_ne c ch hj]
  · rw [System.setChan_self]
    exact h

theorem load_push_le {c : System σ β α ρ} (i : ℕ) (item : α) :
    (c.setChan i ((c.chan i).push item)).load ≤ c.load + 1 := by
  have hpoint (j : ℕ) : ((c.setChan i ((c.chan i).push item)).chan j).weight ≤
      (c.chan j).weight + if j = i then 1 else 0 := by
    by_cases hj : j = i
    · subst hj
      rw [System.setChan_self, if_pos rfl]
      simp only [Chan.push, Chan.weight, List.length_append, List.length_singleton]
      omega
    · rw [System.setChan_of_ne c _ hj, if_neg hj, Nat.add_zero]
  have hone : (∑ j ∈ Finset.range c.jobs.length, if j = i then 1 else 0) ≤ 1 := by
    rw [Finset.sum_ite_eq']
    split
    · exact le_rfl
    · exact Nat.zero_le 1
  calc (c.setChan i ((c.chan i).push item)).load
      ≤ ∑ j ∈ Finset.range c.jobs.length, ((c.chan j).weight + if j = i then 1 else 0) :=
        Finset.sum_le_sum fun j _ ↦ hpoint j
    _ = c.load + ∑ j ∈ Finset.range c.jobs.length, (if j = i then 1 else 0) :=
        Finset.sum_add_distrib
    _ ≤ c.load + 1 := Nat.add_le_add_left hone _

/-- The jobs to come, whether the server is idle, and what is left to do about the job at hand: a
send takes two from the producer and puts one into the channel. -/
def System.measure (c : System σ β α ρ) : ℕ ×ₗ ℕ ×ₗ ℕ :=
  match c.server with
  | .inl _ => toLex (c.jobs.length - c.turn, toLex (1, c.load))
  | .inr t => toLex (c.jobs.length - c.turn, toLex (0, 2 * t.rank + c.load))

theorem measure_of_idle {c : System σ β α ρ} {s : σ} (h : c.server = .inl s) :
    c.measure = toLex (c.jobs.length - c.turn, toLex (1, c.load)) := by
  rw [System.measure, h]

theorem measure_of_busy {c : System σ β α ρ} {t : Producer α ρ} (h : c.server = .inr t) :
    c.measure = toLex (c.jobs.length - c.turn, toLex (0, 2 * t.rank + c.load)) := by
  rw [System.measure, h]

theorem measure_lt_of_act {c c' : System σ β α ρ} (hact : Act serve state capacity c c')
    (hbusy : ∀ t, c.server = .inr t → c.turn < c.jobs.length) : c'.measure < c.measure := by
  cases hact with
  | start hserver hjob =>
    rw [measure_of_idle hserver, measure_of_busy rfl]
    refine Prod.Lex.toLex_lt_toLex.2 (Or.inr ⟨rfl, ?_⟩)
    exact Prod.Lex.toLex_lt_toLex.2 (Or.inl Nat.zero_lt_one)
  | @push item next hserver hchan hroom =>
    rw [measure_of_busy hserver, measure_of_busy rfl]
    refine Prod.Lex.toLex_lt_toLex.2 (Or.inr ⟨rfl, ?_⟩)
    refine Prod.Lex.toLex_lt_toLex.2 (Or.inr ⟨rfl, ?_⟩)
    have hrank := Producer.rank_next_lt item next true
    have hload : ((c.setChan c.turn ((c.chan c.turn).push item)).work (next true)).load ≤
        c.load + 1 := load_push_le c.turn item
    show 2 * (next true).rank + System.load _ < 2 * (Producer.send item next).rank + c.load
    omega
  | @refuse item next hserver hchan =>
    rw [measure_of_busy hserver, measure_of_busy rfl]
    refine Prod.Lex.toLex_lt_toLex.2 (Or.inr ⟨rfl, ?_⟩)
    refine Prod.Lex.toLex_lt_toLex.2 (Or.inr ⟨rfl, ?_⟩)
    have hrank := Producer.rank_next_lt item next false
    show 2 * (next false).rank + c.load < 2 * (Producer.send item next).rank + c.load
    omega
  | @finish r hserver =>
    rw [measure_of_busy hserver, measure_of_idle rfl]
    refine Prod.Lex.toLex_lt_toLex.2 (Or.inl ?_)
    have hlt := hbusy _ hserver
    show c.jobs.length - (c.finished ++ [r]).length < c.jobs.length - c.finished.length
    rw [List.length_append, List.length_singleton]
    rw [System.turn] at hlt
    omega

/-- A channel that gets lighter. -/
theorem measure_setChan_lt {c : System σ β α ρ} {i : ℕ} {ch : Chan α} (hi : i < c.jobs.length)
    (h : ch.weight < (c.chan i).weight) : (c.setChan i ch).measure < c.measure := by
  have hload := load_setChan_lt hi h
  cases hserver : c.server with
  | inl s =>
    have hserver' : (c.setChan i ch).server = .inl s := hserver
    rw [measure_of_idle hserver, measure_of_idle hserver']
    exact Prod.Lex.toLex_lt_toLex.2 (Or.inr ⟨rfl, Prod.Lex.toLex_lt_toLex.2 (Or.inr ⟨rfl, hload⟩)⟩)
  | inr t =>
    have hserver' : (c.setChan i ch).server = .inr t := hserver
    rw [measure_of_busy hserver, measure_of_busy hserver']
    refine Prod.Lex.toLex_lt_toLex.2 (Or.inr ⟨rfl, Prod.Lex.toLex_lt_toLex.2 (Or.inr ⟨rfl, ?_⟩)⟩)
    exact Nat.add_lt_add_left hload _

theorem measure_lt_of_move {c c' : System σ β α ρ} (hmove : Move serve state capacity c c')
    (hbusy : ∀ t, c.server = .inr t → c.turn < c.jobs.length) : c'.measure < c.measure := by
  cases hmove with
  | act hact => exact measure_lt_of_act hact hbusy
  | receive hreceive =>
    obtain ⟨hjob, hqueue⟩ := hreceive
    refine measure_setChan_lt hjob ?_
    rw [Chan.weight, Chan.weight, hqueue, Chan.receive, List.length_cons]
    exact Nat.add_lt_add_right (Nat.lt_succ_self _) _
  | disconnect hjob hchan =>
    refine measure_setChan_lt hjob ?_
    rw [Chan.weight, Chan.weight, hchan, Chan.disconnect]
    exact Nat.lt_succ_of_le (Nat.zero_le _)

/-- **Moves come to an end.**  Whatever the server and the consumers do, without further jobs they
cannot do it for ever. -/
theorem moves_wellFounded (serve : σ → β → Producer α ρ) (state : ρ → σ) (capacity : ℕ) (s : σ) :
    WellFounded fun c' c ↦ Reaches serve state capacity s c ∧ Move serve state capacity c c' := by
  refine Subrelation.wf (r := InvImage (· < ·) System.measure) ?_ (InvImage.wf _ wellFounded_lt)
  rintro c' c ⟨hreaches, hmove⟩
  refine measure_lt_of_move hmove fun t hserver ↦ ?_
  obtain ⟨past, hpast⟩ := linearized_of_reaches hreaches
  obtain ⟨job, sent, hjob, -⟩ := hpast.working hserver
  exact (List.getElem?_eq_some_iff.1 hjob).1

/-! ## Every room comes up -/

/-- Any number of moves. -/
abbrev Moves (serve : σ → β → Producer α ρ) (state : ρ → σ) (capacity : ℕ) :
    System σ β α ρ → System σ β α ρ → Prop :=
  Relation.ReflTransGen (Move serve state capacity)

/-- `c'` differs from `c` in the channel of the job at hand, from which `items` more were received,
and in the server, which has come to the end of the job. -/
structure Ends (c : System σ β α ρ) (r : ρ) (items : List α) (c' : System σ β α ρ) : Prop where
  jobs : c'.jobs = c.jobs
  finished : c'.finished = c.finished
  server : c'.server = .inr (.done r)
  received : (c'.chan c.turn).received = (c.chan c.turn).received ++ items
  others : ∀ i, i ≠ c.turn → c'.chan i = c.chan i

/-- A producer whose receiver is gone comes to its end. -/
theorem exists_ends_of_gone (t : Producer α ρ) {c : System σ β α ρ} (hserver : c.server = .inr t)
    (hchan : (c.chan c.turn).connected = false) :
    ∃ c', Moves serve state capacity c c' ∧ Ends c (t.result (some 0)) [] c' ∧
      (c'.chan c.turn).connected = false := by
  induction t generalizing c with
  | done r => exact ⟨c, .refl, ⟨rfl, rfl, hserver, (List.append_nil _).symm, fun _ _ ↦ rfl⟩, hchan⟩
  | send item next ih =>
    obtain ⟨c', hmoves, hends, hgone⟩ := ih false (c := c.work (next false)) rfl hchan
    exact ⟨c', .head (.act (.refuse hserver hchan)) hmoves,
      ⟨hends.jobs, hends.finished, hends.server, hends.received, hends.others⟩, hgone⟩

/-- A producer comes to its end in any room: its consumer takes item after item, and goes when the
room is used up and there is more to take. -/
theorem exists_ends (hcapacity : 0 < capacity) (t : Producer α ρ) (room : Option ℕ)
    {c : System σ β α ρ} (hserver : c.server = .inr t) (hjob : c.turn < c.jobs.length)
    (hchan : (c.chan c.turn).connected = true) (hqueue : (c.chan c.turn).queue = []) :
    ∃ c', Moves serve state capacity c c' ∧ Ends c (t.result room) (t.accepted room) c' ∧
      ∀ n, room = some n → n < (t.accepted none).length → (c'.chan c.turn).connected = false := by
  induction t generalizing room c with
  | done r =>
    refine ⟨c, .refl, ⟨rfl, rfl, hserver, (List.append_nil _).symm, fun _ _ ↦ rfl⟩, ?_⟩
    intro n _ hn
    exact absurd hn (Nat.not_lt_zero n)
  | send item next ih =>
    -- the item is taken
    have htaken (room' : Option ℕ) : ∃ c', Moves serve state capacity c c' ∧
        Ends c ((next true).result room') (item :: (next true).accepted room') c' ∧
        ∀ n, room' = some n → n < ((next true).accepted none).length →
          (c'.chan c.turn).connected = false := by
      let pushed := (c.setChan c.turn ((c.chan c.turn).push item)).work (next true)
      let taken := pushed.setChan c.turn ((pushed.chan c.turn).receive item [])
      have hpushed : pushed.chan c.turn = (c.chan c.turn).push item := c.setChan_self _ _
      have hpush : Move serve state capacity c pushed :=
        .act (.push hserver hchan (by rw [hqueue]; exact hcapacity))
      have hreceive : Move serve state capacity pushed taken := by
        refine .receive (.receive hjob ?_)
        rw [hpushed, Chan.push, hqueue, List.nil_append]
      have htaken : taken.chan c.turn = ((c.chan c.turn).push item).receive item [] := by
        rw [System.setChan_self, hpushed]
      obtain ⟨c', hmoves, hends, hgone⟩ := ih true room' (c := taken) rfl hjob
        ((congrArg Chan.connected htaken).trans hchan) (congrArg Chan.queue htaken)
      refine ⟨c', .head hpush (.head hreceive hmoves), ⟨hends.jobs, hends.finished, hends.server,
        ?_, fun i hi ↦ ?_⟩, hgone⟩
      · refine hends.received.trans ?_
        show (taken.chan c.turn).received ++ _ = _
        rw [htaken, Chan.receive, Chan.push, List.append_assoc]
        rfl
      · rw [hends.others i hi, System.setChan_of_ne _ _ hi]
        exact c.setChan_of_ne _ hi
    match room with
    | none =>
      obtain ⟨c', hmoves, hends, -⟩ := htaken none
      refine ⟨c', hmoves, hends, ?_⟩
      rintro n ⟨⟩
    | some (n + 1) =>
      obtain ⟨c', hmoves, hends, hgone⟩ := htaken (some n)
      refine ⟨c', hmoves, hends, ?_⟩
      rintro n' ⟨⟩ hn
      exact hgone n rfl (Nat.lt_of_succ_lt_succ hn)
    | some 0 =>
      -- the receiver goes
      let gone := c.setChan c.turn (c.chan c.turn).disconnect
      have hgone : gone.chan c.turn = (c.chan c.turn).disconnect := c.setChan_self _ _
      obtain ⟨c', hmoves, hends, hleft⟩ := exists_ends_of_gone (.send item next) (c := gone) hserver
        (congrArg Chan.connected hgone)
      refine ⟨c', .head (.disconnect hjob hchan) hmoves, ⟨hends.jobs, hends.finished, hends.server,
        ?_, fun i hi ↦ (hends.others i hi).trans (c.setChan_of_ne _ hi)⟩, fun _ _ _ ↦ hleft⟩
      refine hends.received.trans ?_
      show (gone.chan c.turn).received ++ [] = _
      rw [hgone, Producer.accepted_zero]
      rfl

theorem reaches_of_moves {s : σ} {c c' : System σ β α ρ} (h : Reaches serve state capacity s c)
    (hmoves : Moves serve state capacity c c') : Reaches serve state capacity s c' :=
  h.trans (Relation.ReflTransGen.mono (fun _ _ hmove ↦ Step.move hmove) _ _ hmoves)

variable (serve state) in
/-- **Every choice of rooms comes from an interleaving**, in which every consumer receives what is
accepted, and is gone if that is not everything. -/
theorem exists_reaches (hcapacity : 0 < capacity) (s : σ) (past : List (β × Option ℕ)) :
    ∃ c, Reaches serve state capacity s c ∧ c.jobs = past.map Prod.fst ∧
      c.finished = (sequential serve state s past).map Prod.fst ∧
      c.server = .inl (after serve state s past) ∧
      (∀ i r sent, (sequential serve state s past)[i]? = some (r, sent) →
        (c.chan i).received = sent) ∧
      (∀ i job n, past[i]? = some (job, some n) →
        n < ((serve (after serve state s (past.take i)) job).accepted none).length →
        (c.chan i).connected = false) ∧
      ∀ i, c.turn ≤ i → c.chan i = .fresh := by
  induction past using List.reverseRecOn with
  | nil => exact ⟨.init s, .refl, rfl, rfl, rfl, by simp [sequential], by simp, fun _ _ ↦ rfl⟩
  | append_singleton past p ih =>
    obtain ⟨job, room⟩ := p
    obtain ⟨c, hreaches, hjobs, hfinished, hserver, hreceived, hgone, hfresh⟩ := ih
    have hturn : c.turn = past.length := by
      rw [System.turn, hfinished, List.length_map, length_sequential]
    have hlength : c.jobs.length = c.turn := by rw [hjobs, hturn, List.length_map]
    have hjob : (c.submit job).jobs[c.turn]? = some job := by
      show (c.jobs ++ [job])[c.turn]? = some job
      rw [List.getElem?_append_right hlength.le, hlength, Nat.sub_self]
      rfl
    let started := (c.submit job).work (serve (after serve state s past) job)
    have hstarted : Reaches serve state capacity s started :=
      (hreaches.tail (.submit c job)).tail (.move (.act (.start hserver hjob)))
    obtain ⟨c', hmoves, hends, hleft⟩ : ∃ c', Moves serve state capacity started c' ∧
        Ends started ((serve (after serve state s past) job).result room)
          ((serve (after serve state s past) job).accepted room) c' ∧
        ∀ n, room = some n → n < ((serve (after serve state s past) job).accepted none).length →
          (c'.chan started.turn).connected = false :=
      exists_ends hcapacity _ room rfl (List.getElem?_eq_some_iff.1 hjob).1
        (congrArg Chan.connected (hfresh _ le_rfl)) (congrArg Chan.queue (hfresh _ le_rfl))
    have hturn' : started.turn = past.length := hturn
    refine ⟨c'.finish _ _, (reaches_of_moves hstarted hmoves).tail
      (.move (.act (.finish hends.server))), ?_, ?_, ?_, fun i r sent hi ↦ ?_,
      fun i job' n hi hn ↦ ?_, fun i hi ↦ ?_⟩
    · show c'.jobs = _
      rw [hends.jobs, List.map_append, ← hjobs]
      rfl
    · show c'.finished ++ [_] = _
      rw [hends.finished, sequential_concat, List.map_append, ← hfinished]
      rfl
    · rw [after_concat]
      rfl
    · rw [sequential_concat] at hi
      obtain ⟨hlt, -⟩ := List.getElem?_eq_some_iff.1 hi
      rw [List.length_append, length_sequential, List.length_singleton] at hlt
      show (c'.chan i).received = sent
      obtain hlt | rfl := Nat.lt_succ_iff_lt_or_eq.1 hlt
      · rw [List.getElem?_append_left (by rwa [length_sequential])] at hi
        rw [hends.others i (by rw [hturn']; exact hlt.ne)]
        exact hreceived i r sent hi
      · rw [List.getElem?_append_right (by rw [length_sequential]), length_sequential,
          Nat.sub_self] at hi
        cases hi
        have hall := hends.received
        rw [hturn', ← hturn] at hall
        rw [← hturn, hall]
        show (c.chan c.turn).received ++ _ = _
        rw [hfresh _ le_rfl]
        rfl
    · obtain ⟨hlt, -⟩ := List.getElem?_eq_some_iff.1 hi
      rw [List.length_append, List.length_singleton] at hlt
      show (c'.chan i).connected = false
      obtain hlt | rfl := Nat.lt_succ_iff_lt_or_eq.1 hlt
      · rw [List.getElem?_append_left hlt] at hi
        rw [List.take_append_of_le_length hlt.le] at hn
        rw [hends.others i (by rw [hturn']; exact hlt.ne)]
        exact hgone i job' n hi hn
      · rw [List.getElem?_append_right le_rfl, Nat.sub_self] at hi
        cases hi
        rw [List.take_append_of_le_length le_rfl, List.take_length] at hn
        rw [← hturn']
        exact hleft n rfl hn
    · have hlt : c.turn < i := by
        have hfinish : (c'.finish (state ((serve (after serve state s past) job).result room))
            ((serve (after serve state s past) job).result room)).turn = c.turn + 1 := by
          show (c'.finished ++ [_]).length = _
          rw [hends.finished, List.length_append]
          rfl
        rw [hfinish] at hi
        exact hi
      show c'.chan i = .fresh
      rw [hends.others i (by rw [hturn', ← hturn]; exact hlt.ne')]
      exact hfresh i hlt.le

end Moves

end Channel
