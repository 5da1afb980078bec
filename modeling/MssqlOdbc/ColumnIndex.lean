import MssqlOdbc.Any
import MssqlOdbc.Connection.Actor
import MssqlOdbc.Lib.Keys
import MssqlOdbc.Options

/-!
# Looking a column up by its name

Rows and statements of this driver search their columns from the front, and ignore the letter case
if no name is the same otherwise.  What is handed to the `Any` driver carries a map instead, which
is filled by inserting one column after the other.

For a name that two columns have, as after a join, the search returns the first of them and the map
the last (`any_lookup_iff`).
-/

set_option autoImplicit false

namespace MssqlOdbc

open Keys

/-! ## The search -/

/-- `sqlx_core::Error::ColumnNotFound`. -/
structure ColumnNotFound where
  name : String
deriving DecidableEq, Repr

/-- The first column with this name, or else the first one with this name in another letter case. -/
def columnIndex (columns : List MssqlColumn) (name : String) : Except ColumnNotFound ℕ :=
  match columns.findIdx? fun column ↦ column.name == name with
  | some index => .ok index
  | none =>
    match columns.findIdx? fun column ↦ eqIgnoreAsciiCase column.name name with
    | some index => .ok index
    | none => .error ⟨name⟩

/-- `ColumnIndex<MssqlRow> for &str`. -/
def MssqlRow.index {V : Type} (row : MssqlRow V) (name : String) : Except ColumnNotFound ℕ :=
  columnIndex row.columns name

/-- `ColumnIndex<MssqlStatement> for &str`. -/
def MssqlStatement.index (statement : MssqlStatement) (name : String) : Except ColumnNotFound ℕ :=
  columnIndex statement.columns name

/-! ## The map -/

/-- What a map from names finds. -/
def mapIndex (columnNames : String → Option ℕ) (name : String) : Except ColumnNotFound ℕ :=
  match columnNames name with
  | some index => .ok index
  | none => .error ⟨name⟩

/-- `ColumnIndex<AnyRow> for &str`. -/
def AnyRow.index (row : AnyRow) (name : String) : Except ColumnNotFound ℕ :=
  mapIndex row.columnNames name

/-- `sqlx_core::any::AnyStatement`, with the columns found by name. -/
structure AnyStatement where
  sql : String
  columns : List AnyColumn
  parameters : Option (List AnyTypeInfoKind ⊕ ℕ)
  columnNames : String → Option ℕ

/-- `ColumnIndex<AnyStatement> for &str`. -/
def AnyStatement.index (statement : AnyStatement) (name : String) : Except ColumnNotFound ℕ :=
  mapIndex statement.columnNames name

section Prepare

variable {E : Type}
  (tryFromStatement : MssqlStatement → (String → Option ℕ) → Except E AnyStatement)

/-- What `AnyStatement::try_from_statement` of `sqlx-core` does: it converts the columns and the
types of the parameters, and keeps the text and the map. -/
structure TakesStatements : Prop where
  ok_iff : ∀ statement names any, tryFromStatement statement names = .ok any ↔
    any.sql = statement.sql ∧ any.columns = statement.columns.map AnyColumn.ofColumn ∧
      any.parameters =
        statement.parameters.map (Sum.map (List.map MssqlTypeInfo.anyKind) id) ∧
      any.columnNames = names

/-- `AnyConnectionBackend::prepare_with`, behind the `prepare_with` of the executor. -/
def anyPrepareWith (prepared : Except E MssqlStatement) : Except E AnyStatement :=
  match prepared with
  | .error e => .error e
  | .ok statement => tryFromStatement statement (anyColumnNames statement.columns)

end Prepare

/-! ## The two of them -/

/-- The names of the columns, in their order. -/
def columnNames (columns : List MssqlColumn) : List String := columns.map MssqlColumn.name

theorem anyColumnNames_eq (columns : List MssqlColumn) :
    anyColumnNames columns = inserted (columnNames columns) := by
  rw [anyColumnNames, inserted, columnNames, List.zipIdx_map, List.foldl_map]
  rfl

/-- The search finds the first column with the name. -/
theorem columnIndex_of_mem {columns : List MssqlColumn} {name : String}
    (h : name ∈ columnNames columns) :
    ∃ i, columnIndex columns name = .ok i ∧ IsLeast (positions (columnNames columns) name) i := by
  obtain ⟨i, hi⟩ := exists_search h
  have hfirst := search_eq_some_iff.1 hi
  rw [search, columnNames, List.findIdx?_map] at hi
  refine ⟨i, ?_, hfirst⟩
  rw [columnIndex]
  simp only [Function.comp_def] at hi
  rw [hi]

/-- The map has the last column with the name. -/
theorem mapIndex_of_mem {columns : List MssqlColumn} {name : String}
    (h : name ∈ columnNames columns) :
    ∃ j, mapIndex (anyColumnNames columns) name = .ok j ∧
      IsGreatest (positions (columnNames columns) name) j := by
  obtain ⟨j, hj⟩ := exists_inserted h
  refine ⟨j, ?_, inserted_eq_some_iff.1 hj⟩
  rw [mapIndex, anyColumnNames_eq, hj]

/-- Two lookups find a column, and it is the same one. -/
def SameColumn (found found' : Except ColumnNotFound ℕ) : Prop :=
  ∃ i, found = .ok i ∧ found' = .ok i

theorem sameColumn_iff {columns : List MssqlColumn} {name : String}
    (h : name ∈ columnNames columns) :
    SameColumn (columnIndex columns name) (mapIndex (anyColumnNames columns) name) ↔
      (columnNames columns).count name = 1 := by
  obtain ⟨i, hfound, hi⟩ := columnIndex_of_mem h
  obtain ⟨j, hfound', hj⟩ := mapIndex_of_mem h
  rw [← isLeast_eq_isGreatest_iff hi hj, hfound, hfound']
  constructor
  · rintro ⟨k, hk, hk'⟩
    cases hk
    cases hk'
    rfl
  · rintro rfl
    exact ⟨i, rfl, rfl⟩

section Lookup

variable {X : Crates} {E : Type}
  {mapFrom : MssqlRow MssqlValue → (String → Option ℕ) → Except E AnyRow}
  {tryFromStatement : MssqlStatement → (String → Option ℕ) → Except E AnyStatement}

/-- **When a name means the same column to the `Any` driver.**  A name that some column has is found
in a row and in a statement, before and behind the conversion, but it is the same column only if no
other one has that name. -/
theorem any_lookup_iff (hmap : MapsRows X mapFrom) (htake : TakesStatements tryFromStatement) :
    (∀ row r name, AnyRow.tryFrom mapFrom row = .ok r → name ∈ columnNames row.columns →
      (SameColumn (row.index name) (r.index name) ↔ (columnNames row.columns).count name = 1)) ∧
    ∀ (statement : MssqlStatement) any name,
      anyPrepareWith tryFromStatement (.ok statement) = .ok any →
      name ∈ columnNames statement.columns →
      (SameColumn (statement.index name) (any.index name) ↔
        (columnNames statement.columns).count name = 1) := by
  constructor
  · intro row r name hr hname
    obtain ⟨hnames, -, -⟩ := (hmap.ok_iff _ _ _).1 hr
    rw [MssqlRow.index, AnyRow.index, hnames]
    exact sameColumn_iff hname
  · intro statement any name hany hname
    obtain ⟨-, -, -, hnames⟩ := (htake.ok_iff _ _ _).1 hany
    rw [MssqlStatement.index, AnyStatement.index, hnames]
    exact sameColumn_iff hname

end Lookup

/-! ## Concrete rows and statements -/

/-- The conversion of a statement. -/
def takeStatement {E : Type} (statement : MssqlStatement) (names : String → Option ℕ) :
    Except E AnyStatement :=
  .ok ⟨statement.sql, statement.columns.map AnyColumn.ofColumn,
    statement.parameters.map (Sum.map (List.map MssqlTypeInfo.anyKind) id), names⟩

theorem takesStatements_takeStatement {E : Type} : TakesStatements (E := E) takeStatement where
  ok_iff statement names any := by
    obtain ⟨sql, columns, parameters, columnNames⟩ := any
    rw [takeStatement, Except.ok.injEq, AnyStatement.mk.injEq]
    simp only [eq_comm]

/-- Two integer columns with these names. -/
def joinColumns (first second : String) : List MssqlColumn :=
  [⟨0, first, ⟨.integer⟩, some false⟩, ⟨1, second, ⟨.integer⟩, some false⟩]

/-- A row of two integers. -/
def joinRow (first second : String) : MssqlRow MssqlValue :=
  ⟨joinColumns first second, [⟨.integer ⟨7, by decide⟩⟩, ⟨.integer ⟨8, by decide⟩⟩]⟩

/-- The statement of such a row. -/
def joinStatement (first second : String) : MssqlStatement :=
  ⟨"SELECT a.id, b.id FROM a JOIN b ON a.id < b.id", joinColumns first second, none⟩

/-- A name is found in spite of one in another letter case. -/
theorem letter_case_lookup_agrees :
    (∃ r, AnyRow.tryFrom (mapRow Crates.sample) (joinRow "id" "ID") = .ok r ∧
      SameColumn ((joinRow "id" "ID").index "ID") (r.index "ID")) ∧
    ∃ any, anyPrepareWith (E := MapError) takeStatement (.ok (joinStatement "id" "ID")) =
        .ok any ∧
      SameColumn ((joinStatement "id" "ID").index "ID") (any.index "ID") := by
  have h := any_lookup_iff (mapsRows_mapRow (X := Crates.sample)) takesStatements_takeStatement
  refine ⟨⟨_, rfl, ?_⟩, ⟨_, rfl, ?_⟩⟩
  · exact (h.1 _ _ "ID" rfl (by decide)).2 (by decide)
  · exact (h.2 _ _ "ID" rfl (by decide)).2 (by decide)

/-- Of the two columns of a join, this driver finds the first, and the `Any` driver the second. -/
theorem joined_lookup_differs :
    (∃ r, AnyRow.tryFrom (mapRow Crates.sample) (joinRow "id" "id") = .ok r ∧
      "id" ∈ columnNames (joinRow "id" "id").columns ∧
      (joinRow "id" "id").index "id" = .ok 0 ∧ r.index "id" = .ok 1 ∧
      ¬ SameColumn ((joinRow "id" "id").index "id") (r.index "id")) ∧
    ∃ any, anyPrepareWith (E := MapError) takeStatement (.ok (joinStatement "id" "id")) =
        .ok any ∧
      "id" ∈ columnNames (joinStatement "id" "id").columns ∧
      (joinStatement "id" "id").index "id" = .ok 0 ∧ any.index "id" = .ok 1 ∧
      ¬ SameColumn ((joinStatement "id" "id").index "id") (any.index "id") := by
  have hfirst : columnIndex (joinColumns "id" "id") "id" = .ok 0 := by decide
  have hlast : mapIndex (anyColumnNames (joinColumns "id" "id")) "id" = .ok 1 := by decide
  have hdiffer : ¬ SameColumn (columnIndex (joinColumns "id" "id") "id")
      (mapIndex (anyColumnNames (joinColumns "id" "id")) "id") := by
    rw [hfirst, hlast]
    rintro ⟨i, hi, hi'⟩
    cases hi
    cases hi'
  exact ⟨⟨_, rfl, by decide, hfirst, hlast, hdiffer⟩, ⟨_, rfl, by decide, hfirst, hlast, hdiffer⟩⟩

end MssqlOdbc
