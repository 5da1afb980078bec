import MssqlOdbc.Decode
import MssqlOdbc.Lib.ErrStream

/-!
# Rows for the `Any` driver

`AnyRow::try_from` hands a row to the `map_from` of `sqlx-core`, with the kinds of this module.  A
cell is decoded to the Rust type of its kind, and one cell that cannot be decoded fails the row.

Everything without a kind of its own falls back to text.  That works for the types that are fetched
as text, but no date and no time has a text, and a GUID is read as the UTF-8 text of its sixteen
bytes (`anyRow_tryFrom_iff`).
-/

set_option autoImplicit false

namespace MssqlOdbc

/-! ## Looking up a cell -/

/-- `sqlx_core::Error::ColumnIndexOutOfBounds`. -/
structure ColumnIndexOutOfBounds where
  index : ℕ
  len : ℕ
deriving DecidableEq, Repr

/-- `Row::try_get_raw` at an index. -/
def MssqlRow.tryGetRaw {V : Type} (row : MssqlRow V) (index : ℕ) :
    Except ColumnIndexOutOfBounds V :=
  if row.columns.length ≤ index then .error ⟨index, row.columns.length⟩
  else
    match row.values[index]? with
    | some value => .ok value
    | none => .error ⟨index, row.values.length⟩

/-! ## Kinds -/

/-- `sqlx_core::any::AnyTypeInfoKind`. -/
inductive AnyTypeInfoKind where
  | null
  | bool
  | smallInt
  | integer
  | bigInt
  | real
  | double
  | text
  | blob
deriving DecidableEq, Repr

/-- `AnyTypeInfo::try_from`, which never fails. -/
def MssqlTypeInfo.anyKind (ty : MssqlTypeInfo) : AnyTypeInfoKind :=
  match ty.dataType with
  | .bit => .bool
  | .tinyInt | .smallInt => .smallInt
  | .integer => .integer
  | .bigInt => .bigInt
  | .real => .real
  | .float _ | .double => .double
  | .char _ | .varchar _ | .longVarchar _ | .wChar _ | .wVarchar _ | .wLongVarchar _ => .text
  | .binary _ | .varbinary _ | .longVarbinary _ => .blob
  -- Neither dates and times nor exact numbers have a kind of their own.
  | .date | .time _ | .timestamp _ => .text
  | .decimal _ _ | .numeric _ _ => .text
  | .other _ _ _ | .unknown => .text

/-- `sqlx_core::any::AnyColumn`. -/
structure AnyColumn where
  ordinal : ℕ
  name : String
  kind : AnyTypeInfoKind
deriving DecidableEq, Repr

/-- `AnyColumn::try_from`. -/
def AnyColumn.ofColumn (column : MssqlColumn) : AnyColumn where
  ordinal := column.ordinal
  name := column.name
  kind := column.typeInfo.anyKind

/-- `sqlx_core::any::AnyValueKind`. -/
inductive AnyValueKind where
  | null (kind : AnyTypeInfoKind)
  | bool (value : Bool)
  | smallInt (value : I16)
  | integer (value : I32)
  | bigInt (value : I64)
  | real (value : Float32)
  | double (value : Float)
  | text (value : String)
  | blob (value : List UInt8)

/-- `sqlx_core::any::AnyRow`, with the columns found by name. -/
structure AnyRow where
  columnNames : String → Option ℕ
  columns : List AnyColumn
  values : List AnyValueKind

/-- The map from names to positions.  Of two columns with the same name it has the later one. -/
def anyColumnNames (columns : List MssqlColumn) : String → Option ℕ :=
  columns.zipIdx.foldl (fun names entry ↦ Function.update names entry.1.name (some entry.2))
    fun _ ↦ none

/-! ## Rows -/

section Rows

variable (X : Crates)

/-- The cell of the `Any` row: a value is decoded to the Rust type of its kind. -/
def anyValue (value : MssqlValue) : Except DecodeError AnyValueKind :=
  let kind := value.typeInfo.anyKind
  if value.isNull then .ok (.null kind)
  else match kind with
    | .null => .ok (.null .null)
    | .bool => (decode X ⟨value⟩ .bool).map .bool
    | .smallInt => (decode X ⟨value⟩ (.int .i16)).map .smallInt
    | .integer => (decode X ⟨value⟩ (.int .i32)).map .integer
    | .bigInt => (decode X ⟨value⟩ (.int .i64)).map .bigInt
    | .real => (decode X ⟨value⟩ .f32).map .real
    | .double => (decode X ⟨value⟩ .f64).map .double
    | .text => (decode X ⟨value⟩ .string).map .text
    | .blob => (decode X ⟨value⟩ .bytes).map .blob

/-- What `AnyRow::map_from` of `sqlx-core` does: it goes through the columns, looks every cell up at
the ordinal of its column and decodes it, and fails if one of these fails. -/
structure MapsRows {E : Type}
    (mapFrom : MssqlRow MssqlValue → (String → Option ℕ) → Except E AnyRow) : Prop where
  ok_iff : ∀ row names r, mapFrom row names = .ok r ↔
    r.columnNames = names ∧ r.columns = row.columns.map AnyColumn.ofColumn ∧
      List.Forall₂ (fun column any ↦
        ∃ value, row.tryGetRaw column.ordinal = .ok value ∧ anyValue X value = .ok any)
        row.columns r.values

/-- `AnyRow::try_from`. -/
def AnyRow.tryFrom {E : Type}
    (mapFrom : MssqlRow MssqlValue → (String → Option ℕ) → Except E AnyRow)
    (row : MssqlRow MssqlValue) : Except E AnyRow :=
  mapFrom row (anyColumnNames row.columns)

end Rows

/-! ## What is kept -/

/-- The `Any` value is NULL exactly if the value is, and has the content of an integer, a boolean, a
text or a binary one. -/
def Keeps (value : MssqlValue) (any : AnyValueKind) : Prop :=
  match value.kind, any with
  | .null, .null _ => True
  | .tinyInt v, .smallInt v' | .smallInt v, .smallInt v' => v = v'
  | .integer v, .integer v' => v = v'
  | .bigInt v, .bigInt v' => v = v'
  | .bit b, .bool b' => b = b'
  | .text s, .text s' => s = s'
  | .binary bs, .blob bs' => bs = bs'
  | .decimal s _ _, .text s' => s = s'
  | .real _, .real _ | .double _, .double _ | .guid _, .text _ => True
  | _, _ => False

/-- The row succeeds, with a column for every column and a cell for every cell, in their order. -/
def KeptIn (row : MssqlRow MssqlValue) (r : AnyRow) : Prop :=
  r.columns = row.columns.map AnyColumn.ofColumn ∧
    List.Forall₂ (fun column any ↦
      ∃ value, row.tryGetRaw column.ordinal = .ok value ∧ Keeps value any) row.columns r.values

/-- The value has a kind of its own, or a text that is valid UTF-8. -/
def AnyRepresentable (value : MssqlValue) : Prop :=
  match value.kind with
  | .date _ | .time _ | .timestamp _ => False
  | .guid bytes => (Utf8.ofUtf8? bytes.toList).isSome = true
  | _ => True

section Convert

variable {X : Crates} {value : MssqlValue}

/-- An integer is read as one of the type it has. -/
theorem decode_own_int {ty : IntType} {n : I64} {x : ty.Value} (h : value.asI64 = some n)
    (hn : n.val = x.val) : decode X ⟨value⟩ (.int ty) = .ok x :=
  decode_int h (IntType.tryFrom_eq_some.2 hn.symm)

/-- A GUID has no text of its own; its bytes are taken for one. -/
theorem decodeString_guid (bytes : Guid) :
    decode X ⟨⟨.guid bytes⟩⟩ .string = match Utf8.ofUtf8? bytes.toList with
      | some text => .ok text
      | none => .error (.utf8 bytes.toList) := rfl

/-- A representable value is kept. -/
theorem anyValue_keeps (h : AnyRepresentable value) :
    ∃ any, anyValue X value = .ok any ∧ Keeps value any := by
  obtain ⟨kind⟩ := value
  cases kind with
  | date _ | time _ | timestamp _ => exact h.elim
  | null => exact ⟨_, rfl, trivial⟩
  | tinyInt v =>
    have hdecode : decode X ⟨⟨.tinyInt v⟩⟩ (.int .i16) = .ok v :=
      decode_own_int rfl (v.widen_val _)
    exact ⟨.smallInt v, congrArg (Except.map AnyValueKind.smallInt) hdecode, rfl⟩
  | smallInt v =>
    have hdecode : decode X ⟨⟨.smallInt v⟩⟩ (.int .i16) = .ok v :=
      decode_own_int rfl (v.widen_val _)
    exact ⟨.smallInt v, congrArg (Except.map AnyValueKind.smallInt) hdecode, rfl⟩
  | integer v =>
    have hdecode : decode X ⟨⟨.integer v⟩⟩ (.int .i32) = .ok v :=
      decode_own_int rfl (v.widen_val _)
    exact ⟨.integer v, congrArg (Except.map AnyValueKind.integer) hdecode, rfl⟩
  | bigInt v =>
    have hdecode : decode X ⟨⟨.bigInt v⟩⟩ (.int .i64) = .ok v := decode_own_int rfl rfl
    exact ⟨.bigInt v, congrArg (Except.map AnyValueKind.bigInt) hdecode, rfl⟩
  | bit b => exact ⟨.bool b, rfl, rfl⟩
  | real x => exact ⟨_, rfl, trivial⟩
  | double x => exact ⟨_, rfl, trivial⟩
  | text text => exact ⟨.text text, rfl, rfl⟩
  | decimal text precision scale => exact ⟨.text text, rfl, rfl⟩
  | binary bytes => exact ⟨.blob bytes, rfl, rfl⟩
  | guid bytes =>
    obtain ⟨text, htext⟩ := Option.isSome_iff_exists.1 h
    have hdecode : decode X ⟨⟨.guid bytes⟩⟩ .string = .ok text := by
      rw [decodeString_guid, htext]
    exact ⟨.text text, congrArg (Except.map AnyValueKind.text) hdecode, trivial⟩

/-- No other value is decoded at all. -/
theorem anyRepresentable_of_anyValue {any : AnyValueKind} (h : anyValue X value = .ok any) :
    AnyRepresentable value := by
  obtain ⟨kind⟩ := value
  cases kind with
  | date _ | time _ | timestamp _ => cases h
  | guid bytes =>
    have hstring : (decode X ⟨⟨.guid bytes⟩⟩ .string).map AnyValueKind.text = .ok any := h
    rw [decodeString_guid] at hstring
    show (Utf8.ofUtf8? bytes.toList).isSome = true
    cases htext : Utf8.ofUtf8? bytes.toList with
    | some text => rfl
    | none =>
      rw [htext] at hstring
      cases hstring
  | _ => trivial

end Convert

section Rows

variable {X : Crates} {E : Type}
  {mapFrom : MssqlRow MssqlValue → (String → Option ℕ) → Except E AnyRow}

/-- **A row can be handed to the `Any` driver exactly when every cell is representable.**  The
conversion succeeds and keeps the columns, the NULLs and the content of the cells if and only if the
ordinal of every column addresses a cell, no cell is a date, a time or a timestamp, and the sixteen
bytes of every GUID happen to be UTF-8. -/
theorem anyRow_tryFrom_iff (hmap : MapsRows X mapFrom) (row : MssqlRow MssqlValue) :
    (∃ r, AnyRow.tryFrom mapFrom row = .ok r ∧ KeptIn row r) ↔
      ∀ column ∈ row.columns, ∃ value,
        row.tryGetRaw column.ordinal = .ok value ∧ AnyRepresentable value := by
  constructor
  · rintro ⟨r, hr, -⟩ column hcolumn
    obtain ⟨-, -, hvalues⟩ := (hmap.ok_iff _ _ _).1 hr
    obtain ⟨any, value, hvalue, hany⟩ := exists_forall₂_iff.1 ⟨_, hvalues⟩ column hcolumn
    exact ⟨value, hvalue, anyRepresentable_of_anyValue hany⟩
  · intro h
    have hcells : ∀ column ∈ row.columns, ∃ any value, row.tryGetRaw column.ordinal = .ok value ∧
        anyValue X value = .ok any ∧ Keeps value any := by
      intro column hcolumn
      obtain ⟨value, hvalue, hrepresentable⟩ := h column hcolumn
      obtain ⟨any, hany, hkeeps⟩ := anyValue_keeps hrepresentable
      exact ⟨any, value, hvalue, hany, hkeeps⟩
    obtain ⟨values, hvalues⟩ := exists_forall₂_iff.2 hcells
    let r : AnyRow := ⟨anyColumnNames row.columns, row.columns.map AnyColumn.ofColumn, values⟩
    refine ⟨r, (hmap.ok_iff _ _ _).2 ⟨rfl, rfl, ?_⟩, rfl, ?_⟩
    · exact hvalues.imp fun _ _ ⟨value, hvalue, hany, _⟩ ↦ ⟨value, hvalue, hany⟩
    · exact hvalues.imp fun _ _ ⟨value, hvalue, _, hkeeps⟩ ↦ ⟨value, hvalue, hkeeps⟩

end Rows

/-! ## A concrete conversion -/

/-- Why a row is not converted. -/
inductive MapError where
  | index (e : ColumnIndexOutOfBounds)
  | decode (e : DecodeError)

/-- One cell of the row. -/
def mapCell (X : Crates) (row : MssqlRow MssqlValue) (column : MssqlColumn) :
    Except MapError AnyValueKind :=
  match row.tryGetRaw column.ordinal with
  | .error e => .error (.index e)
  | .ok value =>
    match anyValue X value with
    | .error e => .error (.decode e)
    | .ok any => .ok any

/-- The conversion, column by column. -/
def mapCells (X : Crates) (row : MssqlRow MssqlValue) :
    List MssqlColumn → Except MapError (List AnyValueKind)
  | [] => .ok []
  | column :: columns =>
    match mapCell X row column, mapCells X row columns with
    | .ok any, .ok values => .ok (any :: values)
    | .error e, _ => .error e
    | .ok _, .error e => .error e

def mapRow (X : Crates) (row : MssqlRow MssqlValue) (names : String → Option ℕ) :
    Except MapError AnyRow :=
  (mapCells X row row.columns).map fun values ↦
    ⟨names, row.columns.map AnyColumn.ofColumn, values⟩

section Concrete

variable {X : Crates} {row : MssqlRow MssqlValue}

theorem mapCell_ok_iff {column : MssqlColumn} {any : AnyValueKind} :
    mapCell X row column = .ok any ↔
      ∃ value, row.tryGetRaw column.ordinal = .ok value ∧ anyValue X value = .ok any := by
  rw [mapCell]
  cases row.tryGetRaw column.ordinal with
  | error e => simp
  | ok value =>
    dsimp only
    cases hany : anyValue X value with
    | error e => simp [hany]
    | ok any' => simp [hany]

theorem mapCells_ok_iff {columns : List MssqlColumn} {values : List AnyValueKind} :
    mapCells X row columns = .ok values ↔
      List.Forall₂ (fun column any ↦
        ∃ value, row.tryGetRaw column.ordinal = .ok value ∧ anyValue X value = .ok any)
        columns values := by
  simp only [← mapCell_ok_iff]
  induction columns generalizing values with
  | nil =>
    rw [List.forall₂_nil_left_iff, mapCells, Except.ok.injEq]
    exact eq_comm
  | cons column columns ih =>
    rw [List.forall₂_cons_left_iff]
    simp only [← ih]
    rw [mapCells]
    cases mapCell X row column with
    | error e => simp
    | ok any => cases mapCells X row columns with
      | error e => simp
      | ok values' => simp [eq_comm]

theorem mapsRows_mapRow : MapsRows X (mapRow X) where
  ok_iff row names r := by
    rw [← mapCells_ok_iff, mapRow]
    cases mapCells X row row.columns with
    | error e => simp [Except.map]
    | ok values =>
      obtain ⟨names', columns, values'⟩ := r
      simp [Except.map, eq_comm]

end Concrete

/-- A number and a NULL. -/
theorem integer_row_converts :
    let row : MssqlRow MssqlValue :=
      ⟨[⟨0, "id", ⟨.integer⟩, some false⟩, ⟨1, "name", ⟨.wVarchar none⟩, none⟩],
        [⟨.integer ⟨7, by decide⟩⟩, ⟨.null⟩]⟩
    ∃ r, AnyRow.tryFrom (mapRow Crates.sample) row = .ok r ∧ KeptIn row r := by
  refine (anyRow_tryFrom_iff mapsRows_mapRow _).2 fun column hcolumn ↦ ?_
  simp only [List.mem_cons, List.not_mem_nil, or_false] at hcolumn
  rcases hcolumn with rfl | rfl
  · exact ⟨_, rfl, trivial⟩
  · exact ⟨_, rfl, trivial⟩

/-- A row with a date is not converted at all. -/
theorem date_row_fails :
    let row : MssqlRow MssqlValue :=
      ⟨[⟨0, "born", ⟨.date⟩, some false⟩],
        [⟨.date ⟨⟨2000, by decide⟩, ⟨1, by decide⟩, ⟨1, by decide⟩⟩⟩]⟩
    ¬ ∃ r, AnyRow.tryFrom (mapRow Crates.sample) row = .ok r := by
  intro row
  rintro ⟨r, hr⟩
  cases hr

end MssqlOdbc
