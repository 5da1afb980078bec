import Mathlib.Data.List.TakeWhile
import Mathlib.Data.List.Basic
import Mathlib.Logic.Function.Basic

/-!
# A transactional store with named savepoints, and nested transactions

`Store N C` is one client's view of a database whose contents have type `C`: the committed
contents, and — when autocommit is off — an open transaction with its own working contents and a
stack of savepoints named by `N`.  A store in autocommit mode has no working contents of its own,
so "autocommit on with something pending" cannot be written down.

`Nested C` is what nested transactions are *for*: a stack of snapshots, one for each open level.
Rolling a level back restores its snapshot, committing a level forgets it, and only committing the
outermost level publishes.

A client that has only the first and wants the second numbers its levels and saves under `name k`
on entering level `k + 1`.  The names are reused and the savepoints are never released, so the
stack fills up with stale ones.  `Live` is the invariant that makes this work nevertheless: for
every open level the *most recent* savepoint of its name is the one made on entry, and anything
above it belongs to a deeper level.  `Refines` is the resulting relation between the two, and each
operation of the client keeps it (`Refines.enter`, `Refines.leave`, `Refines.undo` and so on).

`startOf` says what the work pending since a savepoint was done on, and `Above` that it is what the
level of that savepoint started from.
-/

set_option autoImplicit false

namespace TxStore

universe u v

/-- The contents and the savepoints, most recent first, of an open transaction. -/
structure OpenTx (N : Type u) (C : Type v) where
  working : C
  savepoints : List (N × C)

/-- The committed contents and, when autocommit is off, the open transaction. -/
structure Store (N : Type u) (C : Type v) where
  committed : C
  tx : Option (OpenTx N C)

variable {N : Type u} {C : Type v}

namespace Store

/-- Autocommit is on exactly when no transaction is open. -/
def autocommit (s : Store N C) : Bool := s.tx.isNone

/-- The contents the client's next statement sees. -/
def working (s : Store N C) : C :=
  match s.tx with
  | none => s.committed
  | some t => t.working

/-- Switching autocommit on commits what is pending; switching it off opens a transaction. -/
def setAutocommit (on : Bool) (s : Store N C) : Store N C :=
  match on, s.tx with
  | true, _ => ⟨s.working, none⟩
  | false, none => ⟨s.committed, some ⟨s.committed, []⟩⟩
  | false, some _ => s

/-- Publishes the working contents.  With autocommit off the next transaction starts at once. -/
def commit (s : Store N C) : Store N C :=
  match s.tx with
  | none => s
  | some t => ⟨t.working, some ⟨t.working, []⟩⟩

/-- Throws the working contents away. -/
def rollback (s : Store N C) : Store N C :=
  match s.tx with
  | none => s
  | some _ => ⟨s.committed, some ⟨s.committed, []⟩⟩

/-- Makes a savepoint; refused outside a transaction. -/
def save (n : N) (s : Store N C) : Option (Store N C) :=
  s.tx.map fun t ↦ { s with tx := some { t with savepoints := (n, t.working) :: t.savepoints } }

/-- Restores the most recent savepoint named `n` and forgets those made after it; refused outside
a transaction and when there is no savepoint of that name. -/
def rollbackTo [DecidableEq N] (n : N) (s : Store N C) : Option (Store N C) :=
  s.tx.bind fun t ↦
    match t.savepoints.dropWhile (fun e ↦ decide (e.1 ≠ n)) with
    | [] => none
    | (m, c) :: older => some { s with tx := some ⟨c, (m, c) :: older⟩ }

/-- A statement replaces the working contents.  In autocommit mode that is a commit. -/
def write (f : C → C) (s : Store N C) : Store N C :=
  match s.tx with
  | none => ⟨f s.committed, none⟩
  | some t => { s with tx := some { t with working := f t.working } }

@[simp] theorem autocommit_write (f : C → C) (s : Store N C) :
    (s.write f).autocommit = s.autocommit := by
  rcases s with ⟨c, _ | t⟩ <;> rfl

theorem write_id (s : Store N C) : s.write id = s := by
  rcases s with ⟨c, _ | t⟩ <;> rfl

/-- Writing what was computed from the working contents. -/
theorem write_working (f : C → C) (s : Store N C) : (s.write fun _ ↦ f s.working) = s.write f := by
  rcases s with ⟨c, _ | t⟩ <;> rfl

theorem working_write (f : C → C) (s : Store N C) : (s.write f).working = f s.working := by
  rcases s with ⟨c, _ | t⟩ <;> rfl

/-- A statement that leaves the working contents as they are leaves the store as it is. -/
theorem write_of_working {f : C → C} {s : Store N C} (h : f s.working = s.working) :
    s.write f = s := by
  rcases s with ⟨c, _ | t⟩
  · exact congrArg (fun c ↦ (⟨c, none⟩ : Store N C)) h
  · exact congrArg (fun w ↦ (⟨c, some { t with working := w }⟩ : Store N C)) h

theorem write_write (f g : C → C) (s : Store N C) : (s.write f).write g = s.write (g ∘ f) := by
  rcases s with ⟨c, _ | t⟩ <;> rfl

/-- Inside a transaction nothing a statement does reaches the committed contents. -/
theorem committed_write_of_open {f : C → C} {s : Store N C} (h : s.autocommit = false) :
    (s.write f).committed = s.committed := by
  rcases s with ⟨c, _ | t⟩
  · exact absurd h (by simp [autocommit])
  · rfl

@[simp] theorem autocommit_setAutocommit (on : Bool) (s : Store N C) :
    (s.setAutocommit on).autocommit = on := by
  rcases on <;> rcases s with ⟨c, _ | t⟩ <;> rfl

/-- Opening a transaction changes nothing yet. -/
theorem working_setAutocommit_false (s : Store N C) :
    (s.setAutocommit false).working = s.working := by
  rcases s with ⟨c, _ | t⟩ <;> rfl

@[simp] theorem autocommit_commit (s : Store N C) : s.commit.autocommit = s.autocommit := by
  rcases s with ⟨c, _ | t⟩ <;> rfl

@[simp] theorem autocommit_rollback (s : Store N C) : s.rollback.autocommit = s.autocommit := by
  rcases s with ⟨c, _ | t⟩ <;> rfl

/-- Savepoint statements need an open transaction and leave it open, with nothing published. -/
theorem of_save {n : N} {s s' : Store N C} (h : s.save n = some s') :
    s'.autocommit = false ∧ s'.committed = s.committed := by
  obtain ⟨t, -, rfl⟩ := Option.map_eq_some_iff.mp h
  exact ⟨rfl, rfl⟩

theorem autocommit_of_save {n : N} {s s' : Store N C} (h : s.save n = some s') :
    s.autocommit = false := by
  obtain ⟨t, ht, -⟩ := Option.map_eq_some_iff.mp h
  rw [autocommit, ht, Option.isNone_some]

theorem of_rollbackTo [DecidableEq N] {n : N} {s s' : Store N C}
    (h : s.rollbackTo n = some s') : s'.autocommit = false ∧ s'.committed = s.committed := by
  obtain ⟨t, -, ht⟩ := Option.bind_eq_some_iff.mp h
  split at ht
  · cases ht
  · cases ht
    exact ⟨rfl, rfl⟩

theorem committed_rollback (s : Store N C) : s.rollback.committed = s.committed := by
  rcases s with ⟨c, _ | t⟩ <;> rfl

/-- Ending a transaction with a rollback publishes nothing. -/
theorem committed_rollback_setAutocommit {s : Store N C} :
    (s.rollback.setAutocommit true).committed = s.committed := by
  rcases s with ⟨c, _ | t⟩ <;> rfl

/-- Ending a transaction with a commit publishes the working contents. -/
theorem committed_commit_setAutocommit {s : Store N C} :
    (s.commit.setAutocommit true).committed = s.working := by
  rcases s with ⟨c, _ | t⟩ <;> rfl

/-- In autocommit mode nothing is pending. -/
theorem working_of_autocommit {s : Store N C} (h : s.autocommit = true) :
    s.working = s.committed := by
  rcases s with ⟨c, _ | t⟩
  · rfl
  · cases h

/-! ### What is pending since a savepoint -/

/-- The store with other contents pending, if a transaction is open. -/
def withWorking (c : C) (s : Store N C) : Store N C :=
  { s with tx := s.tx.map fun t ↦ { t with working := c } }

theorem withWorking_of_working {c : C} {s : Store N C} (h : s.working = c) :
    s.withWorking c = s := by
  subst h
  rcases s with ⟨c, _ | t⟩ <;> rfl

theorem withWorking_of_autocommit {c : C} {s : Store N C} (h : s.autocommit = true) :
    s.withWorking c = s := by
  rcases s with ⟨c, _ | t⟩
  · rfl
  · cases h

theorem working_withWorking {c : C} {s : Store N C} (h : s.autocommit = false) :
    (s.withWorking c).working = c := by
  rcases s with ⟨c, _ | t⟩
  · cases h
  · rfl

variable [DecidableEq N] {n : N} {s s' : Store N C}

/-- The contents of the most recent savepoint named `n`. -/
def savepoint (n : N) (s : Store N C) : Option C := s.tx.bind fun t ↦ t.savepoints.lookup n

/-- What the work since the savepoint `n` was done on: the contents the savepoint holds or, when the
transaction has no savepoint of that name, the contents it started from. -/
def startOf (n : N) (s : Store N C) : C := (s.savepoint n).getD s.committed

theorem startOf_of_autocommit (h : s.autocommit = true) : s.startOf n = s.working := by
  rcases s with ⟨c, _ | t⟩
  · rfl
  · cases h

/-- The savepoint that `rollbackTo` looks for is the one `lookup` finds. -/
theorem head?_dropWhile_ne (n : N) (stack : List (N × C)) :
    (stack.dropWhile fun e ↦ decide (e.1 ≠ n)).head?.map Prod.snd = stack.lookup n := by
  induction stack with
  | nil => rfl
  | cons e stack ih =>
    obtain ⟨m, c⟩ := e
    by_cases hm : m = n
    · subst hm
      simp
    · have hn : (n == m) = false := by simpa using Ne.symm hm
      rw [List.dropWhile_cons_of_pos (by simpa using hm), ih, List.lookup_cons, hn]

/-- A rollback to a savepoint is carried out if and only if there is one, and then its contents are
the working ones. -/
theorem rollbackTo_working (n : N) (s : Store N C) :
    (s.rollbackTo n).map working = s.savepoint n := by
  rcases s with ⟨c, _ | t⟩
  · rfl
  · rw [savepoint, Option.bind_some, ← head?_dropWhile_ne, rollbackTo, Option.bind_some]
    cases t.savepoints.dropWhile (fun e ↦ decide (e.1 ≠ n)) with
    | nil => rfl
    | cons e older => rfl

theorem rollbackTo_eq_none_iff : s.rollbackTo n = none ↔ s.savepoint n = none := by
  rw [← rollbackTo_working, Option.map_eq_none_iff]

theorem working_of_rollbackTo (h : s.rollbackTo n = some s') : s'.working = s.startOf n := by
  rw [startOf, ← rollbackTo_working, h]
  rfl

end Store

/-! ## Nested transactions -/

/-- The reference semantics: the committed contents, the working contents, and the working
contents every open level started from, innermost first. -/
structure Nested (C : Type v) where
  committed : C
  working : C
  snapshots : List C

namespace Nested

/-- Enter a new level. -/
def enter (n : Nested C) : Nested C := { n with snapshots := n.working :: n.snapshots }

/-- Leave the innermost level, keeping what it did; leaving the outermost one publishes. -/
def commit (n : Nested C) : Nested C :=
  match n.snapshots with
  | [] => n
  | [_] => ⟨n.working, n.working, []⟩
  | _ :: outer => { n with snapshots := outer }

/-- Leave the innermost level and undo all it did. -/
def rollback (n : Nested C) : Nested C :=
  match n.snapshots with
  | [] => n
  | start :: outer => ⟨n.committed, start, outer⟩

/-- A statement.  Outside every level it commits on its own. -/
def write (f : C → C) (n : Nested C) : Nested C :=
  match n.snapshots with
  | [] => ⟨f n.working, f n.working, []⟩
  | _ => { n with working := f n.working }

/-! ### Levels -/

variable (n : Nested C)

theorem length_commit : n.commit.snapshots.length = n.snapshots.length - 1 := by
  rcases n with ⟨c, w, _ | ⟨start, _ | ⟨outer, snapshots⟩⟩⟩ <;> rfl

theorem length_rollback : n.rollback.snapshots.length = n.snapshots.length - 1 := by
  rcases n with ⟨c, w, _ | ⟨start, snapshots⟩⟩ <;> rfl

theorem snapshots_write (f : C → C) : (n.write f).snapshots = n.snapshots := by
  rcases n with ⟨c, w, _ | ⟨start, snapshots⟩⟩ <;> rfl

/-- Outside every level there is nothing to leave. -/
theorem eq_of_idle (h : n.snapshots.length = 0) : n.commit = n ∧ n.rollback = n := by
  rcases n with ⟨c, w, _ | ⟨start, snapshots⟩⟩
  · exact ⟨rfl, rfl⟩
  · cases h

end Nested

/-! ## The savepoints of the open levels -/

section Live

variable (name : ℕ → N)

/-- The stack holds, for every snapshot of `snaps` (innermost first), a savepoint of the level's
name with that snapshot; what lies above it is named for deeper levels. -/
def Live : List C → List (N × C) → Prop
  | [], stack => ∀ e ∈ stack, ∃ j, 1 ≤ j ∧ e.1 = name j
  | c :: snaps, stack => ∃ stale rest,
      stack = stale ++ (name (snaps.length + 1), c) :: rest ∧
        (∀ e ∈ stale, ∃ j, snaps.length + 2 ≤ j ∧ e.1 = name j) ∧ Live snaps rest

variable {name}

/-- Savepoints of deeper levels on top of the stack are harmless. -/
theorem Live.append_stale {snaps : List C} {stale stack : List (N × C)}
    (hstale : ∀ e ∈ stale, ∃ j, snaps.length + 1 ≤ j ∧ e.1 = name j) (h : Live name snaps stack) :
    Live name snaps (stale ++ stack) := by
  cases snaps with
  | nil =>
    intro e he
    rcases List.mem_append.mp he with he | he
    · exact hstale e he
    · exact h e he
  | cons c snaps =>
    obtain ⟨stale', rest, rfl, hstale', hrest⟩ := h
    refine ⟨stale ++ stale', rest, by simp, fun e he ↦ ?_, hrest⟩
    rcases List.mem_append.mp he with he | he
    · exact hstale e he
    · exact hstale' e he

/-- A savepoint under the next level's name opens that level. -/
theorem Live.push {snaps : List C} {stack : List (N × C)} (h : Live name snaps stack) (c : C) :
    Live name (c :: snaps) ((name (snaps.length + 1), c) :: stack) :=
  ⟨[], stack, rfl, by simp, h⟩

/-- Leaving a level makes its savepoint stale. -/
theorem Live.pop {c : C} {snaps : List C} {stack : List (N × C)}
    (h : Live name (c :: snaps) stack) : Live name snaps stack := by
  obtain ⟨stale, rest, rfl, hstale, hrest⟩ := h
  rw [← List.singleton_append, ← List.append_assoc]
  refine hrest.append_stale fun e he ↦ ?_
  rcases List.mem_append.mp he with he | he
  · obtain ⟨j, hj, hej⟩ := hstale e he
    exact ⟨j, by omega, hej⟩
  · rw [List.mem_singleton.mp he]
    exact ⟨_, le_rfl, rfl⟩

/-- The most recent savepoint of the innermost level's name is the one made on entering it. -/
theorem Live.dropWhile [DecidableEq N] (hname : Function.Injective name) {c : C} {snaps : List C}
    {stack : List (N × C)} (h : Live name (c :: snaps) stack) :
    ∃ rest, stack.dropWhile (fun e ↦ decide (e.1 ≠ name (snaps.length + 1)))
        = (name (snaps.length + 1), c) :: rest ∧
      Live name snaps ((name (snaps.length + 1), c) :: rest) := by
  obtain ⟨stale, rest, rfl, hstale, hrest⟩ := h
  refine ⟨rest, ?_, ?_⟩
  · rw [List.dropWhile_append_of_pos]
    · simp
    · intro e he
      obtain ⟨j, hj, hej⟩ := hstale e he
      have hne : name j ≠ name (snaps.length + 1) := fun heq ↦ by
        have := hname heq
        omega
      simpa [hej] using hne
  · rw [← List.singleton_append]
    refine hrest.append_stale fun e he ↦ ?_
    rw [List.mem_singleton.mp he]
    exact ⟨_, le_rfl, rfl⟩

end Live

/-! ## The savepoints above a level

`Above` is `Live` for the top of the stack only, so that one can speak about the levels entered
since some moment whatever the stack held then. -/

section Above

/-- The open transaction has, on top of older savepoints, live ones for `snaps`. -/
def Above (name : ℕ → N) (snaps : List C) (s : Store N C) : Prop :=
  ∃ t top lower, s.tx = some t ∧ t.savepoints = top ++ lower ∧ Live name snaps top

namespace Above

variable {name : ℕ → N} {c : C} {snaps : List C} {s s' : Store N C}

theorem of_open (h : s.autocommit = false) : Above name [] s := by
  rcases s with ⟨c, _ | t⟩
  · cases h
  · exact ⟨t, [], t.savepoints, rfl, rfl, by simp [Live]⟩

theorem write (h : Above name snaps s) (f : C → C) : Above name snaps (s.write f) := by
  obtain ⟨t, top, lower, ht, hstack, hlive⟩ := h
  exact ⟨{ t with working := f t.working }, top, lower, by rw [Store.write, ht], hstack, hlive⟩

/-- Saving under the next level's name enters a level. -/
theorem save (h : Above name snaps s) (hsave : s.save (name (snaps.length + 1)) = some s') :
    Above name (s.working :: snaps) s' := by
  obtain ⟨t, top, lower, ht, hstack, hlive⟩ := h
  rw [Store.save, ht] at hsave
  cases hsave
  have hworking : s.working = t.working := by rw [Store.working, ht]
  rw [hworking]
  exact ⟨_, _ :: top, lower, rfl, by rw [hstack]; rfl, hlive.push t.working⟩

/-- Leaving a level takes no statement. -/
theorem pop (h : Above name (c :: snaps) s) : Above name snaps s := by
  obtain ⟨t, top, lower, ht, hstack, hlive⟩ := h
  exact ⟨t, top, lower, ht, hstack, hlive.pop⟩

variable [DecidableEq N] (hname : Function.Injective name)

include hname

/-- Rolling back to the innermost level's savepoint leaves the level. -/
theorem rollbackTo (h : Above name (c :: snaps) s)
    (hundo : s.rollbackTo (name (snaps.length + 1)) = some s') : Above name snaps s' := by
  obtain ⟨t, top, lower, ht, hstack, hlive⟩ := h
  obtain ⟨rest, hdrop, hrest⟩ := hlive.dropWhile hname
  rw [Store.rollbackTo, ht, Option.bind_some, hstack, List.dropWhile_append, hdrop] at hundo
  cases hundo
  exact ⟨_, _, lower, rfl, rfl, hrest⟩

/-- The innermost level's savepoint holds what the level started from. -/
theorem startOf (h : Above name (c :: snaps) s) : s.startOf (name (snaps.length + 1)) = c := by
  obtain ⟨t, top, lower, ht, hstack, hlive⟩ := h
  obtain ⟨rest, hdrop, -⟩ := hlive.dropWhile hname
  have hlookup : t.savepoints.lookup (name (snaps.length + 1)) = some c := by
    rw [← Store.head?_dropWhile_ne, hstack, List.dropWhile_append, hdrop]
    rfl
  rw [Store.startOf, Store.savepoint, ht, Option.bind_some, hlookup]
  rfl

end Above

end Above

/-! ## The refinement relation -/

variable (name : ℕ → N)

/-- The store and the number of open levels implement the nested semantics: outside every level
autocommit is on; inside, the outermost snapshot is the committed contents and the others are live
savepoints. -/
inductive Refines : Store N C → ℕ → Nested C → Prop
  | idle (c : C) : Refines ⟨c, none⟩ 0 ⟨c, c, []⟩
  | inside {c w : C} {stack : List (N × C)} (snaps : List C) (h : Live name snaps stack) :
      Refines ⟨c, some ⟨w, stack⟩⟩ (snaps.length + 1) ⟨c, w, snaps ++ [c]⟩

variable {name}

namespace Refines

variable {s : Store N C} {d : ℕ} {n : Nested C}

theorem committed_eq (h : Refines name s d n) : s.committed = n.committed := by
  cases h <;> rfl

theorem working_eq (h : Refines name s d n) : s.working = n.working := by
  cases h <;> rfl

theorem autocommit_eq_true (h : Refines name s d n) : s.autocommit = true ↔ d = 0 := by
  cases h <;> simp [Store.autocommit]

/-- Outside every level there is nothing to leave or to undo. -/
theorem idle_eq (h : Refines name s 0 n) : n.commit = n ∧ n.rollback = n := by
  cases h with
  | idle c => exact ⟨rfl, rfl⟩

/-- A statement is a write on both sides, in a transaction or not. -/
theorem write (h : Refines name s d n) (f : C → C) : Refines name (s.write f) d (n.write f) := by
  cases h with
  | idle c => exact .idle (f c)
  | @inside c w stack snaps h =>
    have hn : Nested.write f ⟨c, w, snaps ++ [c]⟩ = ⟨c, f w, snaps ++ [c]⟩ := by
      cases snaps <;> rfl
    rw [hn]
    exact .inside snaps h

/-- Opening a transaction enters the outermost level. -/
theorem enter_outermost (h : Refines name s 0 n) :
    Refines name (s.setAutocommit false) 1 n.enter := by
  cases h with
  | idle c => exact .inside [] (by simp [Live])

/-- Saving under the level's number enters a nested level. -/
theorem enter (h : Refines name s (d + 1) n) :
    ∃ s', s.save (name (d + 1)) = some s' ∧ Refines name s' (d + 2) n.enter := by
  cases h with
  | @inside c w stack snaps h =>
    exact ⟨_, rfl, .inside (w :: snaps) (h.push w)⟩

/-- At the outermost level the only snapshot is the committed contents. -/
theorem outermost (h : Refines name s 1 n) :
    ∃ c w stack, s = ⟨c, some ⟨w, stack⟩⟩ ∧ n = ⟨c, w, [c]⟩ := by
  generalize hd : 1 = d at h
  cases h with
  | idle c => exact absurd hd (by simp)
  | @inside c w stack snaps h =>
    obtain rfl : snaps = [] := List.length_eq_zero_iff.mp (by omega)
    exact ⟨c, w, stack, rfl, rfl⟩

/-- At a nested level there is a snapshot on top of those of the levels around it. -/
theorem nested (h : Refines name s (d + 2) n) :
    ∃ c w e stack snaps, snaps.length = d ∧ Live name (e :: snaps) stack ∧
      s = ⟨c, some ⟨w, stack⟩⟩ ∧ n = ⟨c, w, e :: snaps ++ [c]⟩ := by
  generalize hd : d + 2 = d' at h
  cases h with
  | idle c => exact absurd hd (by simp)
  | @inside c w stack snaps h =>
    cases snaps with
    | nil => exact absurd hd (by simp)
    | cons e snaps =>
      have hlength : snaps.length = d := by
        rw [List.length_cons] at hd
        omega
      exact ⟨c, w, e, stack, snaps, hlength, h, rfl, rfl⟩

/-- Committing and switching autocommit back on leaves the outermost level. -/
theorem leave_outermost (h : Refines name s 1 n) :
    Refines name (s.commit.setAutocommit true) 0 n.commit := by
  obtain ⟨c, w, stack, rfl, rfl⟩ := h.outermost
  exact .idle w

/-- Leaving a nested level takes no statement at all. -/
theorem leave (h : Refines name s (d + 2) n) : Refines name s (d + 1) n.commit := by
  obtain ⟨c, w, e, stack, snaps, rfl, hlive, rfl, rfl⟩ := h.nested
  have hn : Nested.commit ⟨c, w, e :: snaps ++ [c]⟩ = ⟨c, w, snaps ++ [c]⟩ := by
    cases snaps <;> rfl
  rw [hn]
  exact .inside snaps hlive.pop

/-- Rolling back and switching autocommit back on undoes the outermost level. -/
theorem undo_outermost (h : Refines name s 1 n) :
    Refines name (s.rollback.setAutocommit true) 0 n.rollback := by
  obtain ⟨c, w, stack, rfl, rfl⟩ := h.outermost
  exact .idle c

/-- Rolling back to the savepoint of the level's name undoes a nested level: the stale savepoints
do not get in the way, because they all bear other names or lie below. -/
theorem undo [DecidableEq N] (hname : Function.Injective name) (h : Refines name s (d + 2) n) :
    ∃ s', s.rollbackTo (name (d + 1)) = some s' ∧ Refines name s' (d + 1) n.rollback := by
  obtain ⟨c, w, e, stack, snaps, rfl, hlive, rfl, rfl⟩ := h.nested
  obtain ⟨rest, hdrop, hrest⟩ := hlive.dropWhile hname
  refine ⟨_, ?_, .inside snaps hrest⟩
  rw [Store.rollbackTo, Option.bind_some, hdrop]

end Refines

end TxStore
