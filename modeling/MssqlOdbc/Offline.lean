import MssqlOdbc.Lib.Record
import MssqlOdbc.Text
import MssqlOdbc.TypeInfo

/-!
# The offline cache

Type information is kept in a file as a map: the name of the type, and the fields of its data type.
`serialize` and `deserialize` are two tables over the data types, written separately.

They fit together, whatever the order of the map, except for two groups of types
(`offline_round_trip_iff`): the long types are written without their length, and the types of the
server that have a name of their own are read back without their size and their digits.
-/

set_option autoImplicit false

namespace MssqlOdbc

abbrev Usize : Type := IntType.u64.Value

/-! ## Writing -/

/-- A value of the map. -/
inductive Datum where
  | str (value : String)
  | int (value : ℤ)
  | null
deriving DecidableEq, Repr

/-- An optional length or size. -/
def Datum.ofLength : Option ℕ → Datum
  | some n => .int n
  | none => .null

/-- `Serialize for MssqlTypeInfo`: the entries of the map. -/
def serialize (ty : MssqlTypeInfo) : List (String × Datum) :=
  ("type_name", .str ty.dataType.name) ::
    match ty.dataType with
    | .decimal precision scale | .numeric precision scale =>
      [("precision", .int precision), ("scale", .int scale)]
    | .float precision => [("precision", .int precision)]
    -- `as usize`
    | .time precision | .timestamp precision =>
      [("precision", .int (IntType.u64.wrap precision).val)]
    | .char length | .varchar length | .wChar length | .wVarchar length =>
      [("length", .ofLength length)]
    | .binary length | .varbinary length => [("length", .ofLength length)]
    | .other sqlType columnSize decimalDigits =>
      [("sql_data_type", .int sqlType), ("column_size", .ofLength columnSize),
        ("decimal_digits", .int decimalDigits)]
    | _ => []

/-! ## Reading -/

inductive Field where
  | typeName
  | precision
  | scale
  | length
  | sqlDataType
  | columnSize
  | decimalDigits
deriving DecidableEq, Repr

namespace Field

/-- The key of the field, in snake case. -/
def key : Field → String
  | .typeName => "type_name"
  | .precision => "precision"
  | .scale => "scale"
  | .length => "length"
  | .sqlDataType => "sql_data_type"
  | .columnSize => "column_size"
  | .decimalDigits => "decimal_digits"

def all : List Field :=
  [.typeName, .precision, .scale, .length, .sqlDataType, .columnSize, .decimalDigits]

/-- The type a field is read as. -/
def Value : Field → Type
  | .typeName => String
  | .precision | .length | .columnSize => Usize
  | .scale | .sqlDataType | .decimalDigits => I16

end Field

/-- An error of the deserializer. -/
inductive DeError where
  | unknownField (key : String)
  | duplicateField (field : Field)
  | missingField (field : Field)
  | invalid (field : Field) (found : Datum)
deriving Repr

/-- A field of an integer type, read from a number in its range. -/
def readInt (ty : IntType) (field : Field) (datum : Datum) : Except DeError (Option ty.Value) :=
  match datum with
  | .int n =>
    match ty.tryFrom n with
    | some v => .ok (some v)
    | none => .error (.invalid field datum)
  | _ => .error (.invalid field datum)

/-- A field that may be null. -/
def readLength (field : Field) (datum : Datum) : Except DeError (Option Usize) :=
  match datum with
  | .null => .ok none
  | _ => readInt .u64 field datum

def readString (field : Field) (datum : Datum) : Except DeError (Option String) :=
  match datum with
  | .str s => .ok (some s)
  | _ => .error (.invalid field datum)

/-- The visitor of the map. -/
def visitor : Record.Reader Field String Datum DeError Field.Value where
  identify key :=
    match Field.all.find? fun f ↦ f.key = key with
    | some f => .ok f
    | none => .error (.unknownField key)
  parse
    | .typeName => readString .typeName
    | .precision => readInt .u64 .precision
    | .scale => readInt .i16 .scale
    | .length => readLength .length
    | .sqlDataType => readInt .i16 .sqlDataType
    | .columnSize => readLength .columnSize
    | .decimalDigits => readInt .i16 .decimalDigits
  duplicate := .duplicateField

section Read

-- `DataType::new` of `odbc-api`: the data type of a type code, a column size and decimal digits.
variable (new : I16 → Usize → I16 → DataType)

/-- `length.and_then(NonZeroUsize::new)`. -/
def nonZero (length : Option Usize) : Option ℕ :=
  length.bind fun n ↦ if n.val = 0 then none else some n.val.toNat

/-- The types of the server that are known by name. -/
def DataType.ofCode (sqlType : ℤ) : DataType := .other sqlType none 0

/-- The data type a name stands for. -/
def dataTypeOfName (slots : Record.Slots Field.Value) (name : String) : DataType :=
  let length := nonZero (slots .length)
  let precision : Usize := (slots .precision).getD ⟨0, by decide⟩
  let scale : I16 := (slots .scale).getD ⟨0, by decide⟩
  let sqlType : I16 := (slots .sqlDataType).getD ⟨0, by decide⟩
  let columnSize : Usize := (slots .columnSize).getD ⟨0, by decide⟩
  let decimalDigits : I16 := (slots .decimalDigits).getD ⟨0, by decide⟩
  match name with
  | "BIGINT" => .bigInt
  | "BINARY" => .binary length
  | "BIT" => .bit
  | "CHAR" => .char length
  | "DATE" => .date
  | "DECIMAL" => .decimal precision.val.toNat scale.val
  | "DOUBLE" => .double
  | "FLOAT" => .float precision.val.toNat
  | "INTEGER" => .integer
  | "LONGVARBINARY" => .longVarbinary length
  | "LONGVARCHAR" => .longVarchar length
  | "NUMERIC" => .numeric precision.val.toNat scale.val
  | "REAL" => .real
  | "SMALLINT" => .smallInt
  | "TIME" => .time (IntType.i16.wrap precision.val).val
  | "TIMESTAMP" => .timestamp (IntType.i16.wrap precision.val).val
  | "TINYINT" => .tinyInt
  | "VARBINARY" => .varbinary length
  | "VARCHAR" => .varchar length
  | "WCHAR" => .wChar length
  | "WLONGVARCHAR" => .wLongVarchar length
  | "WVARCHAR" => .wVarchar length
  | "UNKNOWN" => .unknown
  | "UNIQUEIDENTIFIER" => .ofCode (-11)
  | "SQL_VARIANT" => .ofCode (-150)
  | "UDT" => .ofCode (-151)
  | "XML" => .ofCode (-152)
  | "DATETIMEOFFSET" => .ofCode (-155)
  | "HIERARCHYID" => .ofCode (-156)
  | "OTHER" => new sqlType columnSize decimalDigits
  | _ => .other 0 length 0

/-- What is made of the fields. -/
def ofSlots (slots : Record.Slots Field.Value) : Except DeError MssqlTypeInfo :=
  match slots .typeName with
  | none => .error (.missingField .typeName)
  | some name => .ok ⟨dataTypeOfName new slots name⟩

/-- `Deserialize for MssqlTypeInfo`. -/
def deserialize (entries : List (String × Datum)) : Except DeError MssqlTypeInfo :=
  match visitor.visitAll (fun _ ↦ none) entries with
  | .error e => .error e
  | .ok slots => ofSlots new slots

end Read

/-! ## What is written is read -/

/-- The fields are in the ranges of their types. -/
def DataType.WellTyped : DataType → Prop
  | .char length | .varchar length | .longVarchar length | .wChar length | .wVarchar length
  | .wLongVarchar length | .binary length | .varbinary length | .longVarbinary length =>
    ∀ n ∈ length, 0 < n ∧ n ≤ IntType.u64.max
  | .decimal precision scale | .numeric precision scale =>
    precision ≤ IntType.u64.max ∧ IntType.i16.min ≤ scale ∧ scale ≤ IntType.i16.max
  | .float precision => precision ≤ IntType.u64.max
  | .time precision | .timestamp precision =>
    IntType.i16.min ≤ precision ∧ precision ≤ IntType.i16.max
  | .other sqlType columnSize decimalDigits =>
    (IntType.i16.min ≤ sqlType ∧ sqlType ≤ IntType.i16.max) ∧
      (∀ n ∈ columnSize, 0 < n ∧ n ≤ IntType.u64.max) ∧
      IntType.i16.min ≤ decimalDigits ∧ decimalDigits ≤ IntType.i16.max
  | _ => True

/-- The slots of the fields that are written. -/
def written (dataType : DataType) : Record.Slots Field.Value
  | .typeName => some dataType.name
  | .precision =>
    match dataType with
    | .decimal precision _ | .numeric precision _ | .float precision =>
      IntType.u64.tryFrom precision
    | .time precision | .timestamp precision => some (IntType.u64.wrap precision)
    | _ => none
  | .scale =>
    match dataType with
    | .decimal _ scale | .numeric _ scale => IntType.i16.tryFrom scale
    | _ => none
  | .length =>
    match dataType with
    | .char length | .varchar length | .wChar length | .wVarchar length | .binary length
    | .varbinary length => length.bind fun n ↦ IntType.u64.tryFrom n
    | _ => none
  | .sqlDataType =>
    match dataType with
    | .other sqlType _ _ => IntType.i16.tryFrom sqlType
    | _ => none
  | .columnSize =>
    match dataType with
    | .other _ columnSize _ => columnSize.bind fun n ↦ IntType.u64.tryFrom n
    | _ => none
  | .decimalDigits =>
    match dataType with
    | .other _ _ decimalDigits => IntType.i16.tryFrom decimalDigits
    | _ => none

section Entries

variable {dataType : DataType}

theorem readInt_eq {ty : IntType} {n : ℤ} (h : ty.min ≤ n ∧ n ≤ ty.max) (field : Field) :
    readInt ty field (.int n) = .ok (ty.tryFrom n) := by
  have htry : ty.tryFrom n = some ⟨n, h⟩ := dif_pos h
  rw [readInt, htry]

theorem readLength_eq {length : Option ℕ} (h : ∀ n ∈ length, 0 < n ∧ n ≤ IntType.u64.max)
    (field : Field) :
    readLength field (.ofLength length) = .ok (length.bind fun n ↦ IntType.u64.tryFrom n) := by
  cases length with
  | none => rfl
  | some n => exact readInt_eq ⟨Int.natCast_nonneg n, (h n rfl).2⟩ field

theorem visitor_identify (f : Field) : visitor.identify f.key = .ok f := by
  cases f <;> rfl

theorem serialize_keys (ty : MssqlTypeInfo) : ((serialize ty).map Prod.fst).Nodup := by
  obtain ⟨dataType⟩ := ty
  cases dataType <;> simp [serialize]

/-- Every entry is read as what was written. -/
theorem serialize_parse (h : dataType.WellTyped) : ∀ entry ∈ serialize ⟨dataType⟩,
    ∃ f, entry.1 = Field.key f ∧ visitor.parse f entry.2 = .ok (written dataType f) := by
  intro entry hentry
  rw [serialize, List.mem_cons] at hentry
  rcases hentry with rfl | hentry
  · exact ⟨.typeName, rfl, rfl⟩
  cases dataType with
  | decimal precision scale | numeric precision scale =>
    simp only [List.mem_cons, List.not_mem_nil, or_false] at hentry
    rcases hentry with rfl | rfl
    · exact ⟨.precision, rfl, readInt_eq ⟨Int.natCast_nonneg _, h.1⟩ _⟩
    · exact ⟨.scale, rfl, readInt_eq h.2 _⟩
  | float precision =>
    rw [List.mem_singleton] at hentry
    subst hentry
    exact ⟨.precision, rfl, readInt_eq ⟨Int.natCast_nonneg _, h⟩ _⟩
  | time precision | timestamp precision =>
    rw [List.mem_singleton] at hentry
    subst hentry
    refine ⟨.precision, rfl, (readInt_eq (IntType.u64.wrap precision).property _).trans ?_⟩
    rw [IntType.tryFrom_val]
    rfl
  | char length | varchar length | wChar length | wVarchar length | binary length
  | varbinary length =>
    rw [List.mem_singleton] at hentry
    subst hentry
    exact ⟨.length, rfl, readLength_eq h _⟩
  | other sqlType columnSize decimalDigits =>
    simp only [List.mem_cons, List.not_mem_nil, or_false] at hentry
    rcases hentry with rfl | rfl | rfl
    · exact ⟨.sqlDataType, rfl, readInt_eq h.1 _⟩
    · exact ⟨.columnSize, rfl, readLength_eq h.2.1 _⟩
    · exact ⟨.decimalDigits, rfl, readInt_eq h.2.2 _⟩
  | _ => cases hentry

/-- What is not written is absent. -/
theorem written_eq_none {f : Field} (h : f.key ∉ (serialize ⟨dataType⟩).map Prod.fst) :
    written dataType f = none := by
  cases dataType <;> cases f <;> first
    | rfl
    | exact absurd (by simp [serialize, Field.key]) h

end Entries

/-! ## The round trip -/

section RoundTrip

variable {new : I16 → Usize → I16 → DataType} {dataType : DataType}

/-- **The map is read in any order.** -/
theorem deserialize_eq (h : dataType.WellTyped) {entries : List (String × Datum)}
    (hperm : entries.Perm (serialize ⟨dataType⟩)) :
    deserialize new entries = .ok ⟨dataTypeOfName new (written dataType) dataType.name⟩ := by
  have hkeys : (entries.map Prod.fst).Perm ((serialize ⟨dataType⟩).map Prod.fst) := hperm.map _
  have hslots : visitor.visitAll (fun _ ↦ none) entries = .ok (written dataType) := by
    refine Record.Reader.visitAll_eq visitor_identify ?_ (fun _ _ ↦ rfl) ?_ fun f hf ↦ ?_
    · exact hkeys.nodup_iff.2 (serialize_keys _)
    · exact fun entry hentry ↦ serialize_parse h entry (hperm.mem_iff.1 hentry)
    · exact written_eq_none fun hmem ↦ hf (hkeys.mem_iff.2 hmem)
  rw [deserialize, hslots]
  rfl

/-- What `odbc-api` does with an SQL type code: the fields of the data type are in range, and a code
without a data type of its own keeps the size and the digits, whatever they are. -/
structure DataTypeNew (new : I16 → Usize → I16 → DataType) : Prop where
  wellTyped : ∀ sqlType columnSize decimalDigits,
    (new sqlType columnSize decimalDigits).WellTyped
  other : ∀ {sqlType columnSize decimalDigits code size digits},
    new sqlType columnSize decimalDigits = .other code size digits → code = sqlType.val ∧
      ∀ columnSize' decimalDigits', new sqlType columnSize' decimalDigits' =
        .other code (nonZero (some columnSize')) decimalDigits'.val

/-- The types of the server that have a name of their own. -/
def namedCodes : List ℤ := [-11, -150, -151, -152, -155, -156]

/-- The data type comes back as it was: it is no long type with a length, and no named type of the
server with a size or digits. -/
def DataType.KeptOffline : DataType → Prop
  | .longVarchar length | .wLongVarchar length | .longVarbinary length => length = none
  | .other sqlType columnSize decimalDigits =>
    sqlType ∈ namedCodes → columnSize = none ∧ decimalDigits = 0
  | _ => True

theorem nonZero_written {length : Option ℕ} (h : ∀ n ∈ length, 0 < n ∧ n ≤ IntType.u64.max) :
    nonZero (length.bind fun n ↦ IntType.u64.tryFrom n) = length := by
  cases length with
  | none => rfl
  | some n =>
    obtain ⟨hpos, hmax⟩ := h n rfl
    have htry : IntType.u64.tryFrom n = some ⟨n, Int.natCast_nonneg n, hmax⟩ :=
      dif_pos ⟨Int.natCast_nonneg n, hmax⟩
    have hne : (n : ℤ) ≠ 0 := by omega
    rw [Option.bind_some, htry, nonZero, Option.bind_some, if_neg hne]
    rfl

/-- A 16-bit number survives being widened to a size and cut again. -/
theorem wrap_wrap {p : ℤ} (h : IntType.i16.min ≤ p ∧ p ≤ IntType.i16.max) :
    (IntType.i16.wrap (IntType.u64.wrap p).val).val = p := by
  have hmin : -32768 ≤ p := h.1
  have hmax : p ≤ 32767 := h.2
  show ((p - 0) % 18446744073709551616 + 0 - -32768) % 65536 + -32768 = p
  omega

theorem tryFrom_getD {ty : IntType} {n : ℤ} (h : ty.min ≤ n ∧ n ≤ ty.max) (v : ty.Value) :
    ((ty.tryFrom n).getD v).val = n := by
  have htry : ty.tryFrom n = some ⟨n, h⟩ := dif_pos h
  rw [htry]
  rfl

theorem tryFrom_getD_toNat {n : ℕ} (h : n ≤ IntType.u64.max) (v : Usize) :
    ((IntType.u64.tryFrom n).getD v).val.toNat = n := by
  rw [tryFrom_getD ⟨Int.natCast_nonneg n, h⟩, Int.toNat_natCast]

/-- An optional size that is written, read and given to `new` is the same again. -/
theorem nonZero_getD {size : Option ℕ} (h : ∀ n ∈ size, 0 < n ∧ n ≤ IntType.u64.max) :
    nonZero (some ((size.bind fun n ↦ IntType.u64.tryFrom n).getD ⟨0, by decide⟩)) = size := by
  cases size with
  | none => rfl
  | some n =>
    have hwritten := nonZero_written h
    have htry : IntType.u64.tryFrom n = some ⟨n, Int.natCast_nonneg n, (h n rfl).2⟩ :=
      dif_pos ⟨Int.natCast_nonneg n, (h n rfl).2⟩
    rw [Option.bind_some, htry] at hwritten ⊢
    exact hwritten

/-- A type of the server without a name of its own is read with all it has. -/
theorem other_written (hnew : DataTypeNew new) {sqlType : ℤ} {size : Option ℕ} {digits : ℤ}
    (hreported : ∃ code columnSize decimalDigits,
      new code columnSize decimalDigits = .other sqlType size digits)
    (hname : sqlType ∉ namedCodes) :
    dataTypeOfName new (written (.other sqlType size digits))
      (DataType.other sqlType size digits).name = .other sqlType size digits := by
  obtain ⟨code, columnSize, decimalDigits, hreported⟩ := hreported
  obtain ⟨hcode, hother⟩ := hnew.other hreported
  obtain ⟨hsqlType, hsize, hdigits⟩ : (DataType.other sqlType size digits).WellTyped :=
    hreported ▸ hnew.wellTyped code columnSize decimalDigits
  have hother_name : (DataType.other sqlType size digits).name = "OTHER" := by
    simp only [namedCodes, List.mem_cons, List.not_mem_nil, or_false, not_or] at hname
    simp only [DataType.name, hname, if_false]
  have hcode' : (IntType.i16.tryFrom sqlType).getD ⟨0, by decide⟩ = code :=
    Subtype.ext ((tryFrom_getD hsqlType _).trans hcode)
  rw [hother_name]
  show new ((IntType.i16.tryFrom sqlType).getD _)
    ((size.bind fun n ↦ IntType.u64.tryFrom n).getD _) ((IntType.i16.tryFrom digits).getD _) = _
  rw [hcode', hother, nonZero_getD hsize, tryFrom_getD hdigits]

/-- What is read of the fields of a data type that the driver reports. -/
theorem dataTypeOfName_written (hnew : DataTypeNew new)
    (hreported : ∃ sqlType columnSize decimalDigits,
      new sqlType columnSize decimalDigits = dataType) :
    dataTypeOfName new (written dataType) dataType.name = dataType ↔ dataType.KeptOffline := by
  have h : dataType.WellTyped := by
    obtain ⟨sqlType, columnSize, decimalDigits, rfl⟩ := hreported
    exact hnew.wellTyped sqlType columnSize decimalDigits
  cases dataType with
  | char length | varchar length | wChar length | wVarchar length | binary length
  | varbinary length => exact iff_of_true (congrArg _ (nonZero_written h)) trivial
  | longVarchar length =>
    show DataType.longVarchar none = .longVarchar length ↔ length = none
    rw [DataType.longVarchar.injEq, eq_comm]
  | wLongVarchar length =>
    show DataType.wLongVarchar none = .wLongVarchar length ↔ length = none
    rw [DataType.wLongVarchar.injEq, eq_comm]
  | longVarbinary length =>
    show DataType.longVarbinary none = .longVarbinary length ↔ length = none
    rw [DataType.longVarbinary.injEq, eq_comm]
  | time precision | timestamp precision => exact iff_of_true (congrArg _ (wrap_wrap h)) trivial
  | decimal precision scale | numeric precision scale =>
    exact iff_of_true (congrArg₂ _ (tryFrom_getD_toNat h.1 _) (tryFrom_getD h.2 _)) trivial
  | float precision => exact iff_of_true (congrArg _ (tryFrom_getD_toNat h _)) trivial
  | other sqlType size digits =>
    by_cases hname : sqlType ∈ namedCodes
    · have hread : dataTypeOfName new (written (.other sqlType size digits))
          (DataType.other sqlType size digits).name = .ofCode sqlType := by
        simp only [namedCodes, List.mem_cons, List.not_mem_nil, or_false] at hname
        rcases hname with rfl | rfl | rfl | rfl | rfl | rfl <;> rfl
      rw [hread, DataType.ofCode, DataType.other.injEq]
      constructor
      · exact fun ⟨_, hsize, hdigits⟩ _ ↦ ⟨hsize.symm, hdigits.symm⟩
      · exact fun hkept ↦ ⟨rfl, (hkept hname).1.symm, (hkept hname).2.symm⟩
    · exact iff_of_true (other_written hnew hreported hname) fun hmem ↦ absurd hmem hname
  | _ => exact iff_of_true rfl trivial

/-- **A cached type comes back unless it is long or has a name.**  For every SQL type code, column
size and decimal digits: reading the map that is written for the reported type, in whatever order
its entries come, succeeds and returns the same type information, if and only if the type is no
long type with a length, and no named type of the server with a size or digits. -/
theorem offline_round_trip_iff (hnew : DataTypeNew new) (sqlType : I16) (columnSize : Usize)
    (decimalDigits : I16) :
    (∀ entries, entries.Perm (serialize ⟨new sqlType columnSize decimalDigits⟩) →
      deserialize new entries = .ok ⟨new sqlType columnSize decimalDigits⟩) ↔
      (new sqlType columnSize decimalDigits).KeptOffline := by
  have htyped := hnew.wellTyped sqlType columnSize decimalDigits
  rw [← dataTypeOfName_written hnew ⟨sqlType, columnSize, decimalDigits, rfl⟩]
  constructor
  · intro h
    have hread := h _ (List.Perm.refl _)
    rw [deserialize_eq htyped (List.Perm.refl _)] at hread
    exact congrArg MssqlTypeInfo.dataType (Except.ok.inj hread)
  · intro h entries hperm
    rw [deserialize_eq htyped hperm, h]

end RoundTrip

/-! ## The codes of the standard -/

/-- The data types of the SQL type codes of ODBC. -/
def odbcDataType (sqlType : I16) (columnSize : Usize) (decimalDigits : I16) : DataType :=
  let length := nonZero (some columnSize)
  match sqlType.val with
  | 0 => .unknown
  | 1 => .char length
  | 2 => .numeric columnSize.val.toNat decimalDigits.val
  | 3 => .decimal columnSize.val.toNat decimalDigits.val
  | 4 => .integer
  | 5 => .smallInt
  | 6 => .float columnSize.val.toNat
  | 7 => .real
  | 8 => .double
  | 12 => .varchar length
  | 91 => .date
  | 92 => .time decimalDigits.val
  | 93 => .timestamp decimalDigits.val
  | -1 => .longVarchar length
  | -2 => .binary length
  | -3 => .varbinary length
  | -4 => .longVarbinary length
  | -5 => .bigInt
  | -6 => .tinyInt
  | -7 => .bit
  | -8 => .wChar length
  | -9 => .wVarchar length
  | -10 => .wLongVarchar length
  | code => .other code length decimalDigits.val

theorem nonZero_mem (columnSize : Usize) :
    ∀ n ∈ nonZero (some columnSize), 0 < n ∧ n ≤ IntType.u64.max := by
  intro n hn
  have hrange : 0 ≤ columnSize.val ∧ columnSize.val ≤ IntType.u64.max := columnSize.property
  rw [nonZero, Option.bind_some, Option.mem_def] at hn
  split at hn
  · cases hn
  · cases hn
    omega

theorem toNat_le (columnSize : Usize) : (columnSize.val.toNat : ℤ) ≤ IntType.u64.max := by
  have hrange : 0 ≤ columnSize.val ∧ columnSize.val ≤ IntType.u64.max := columnSize.property
  omega

theorem odbcDataType_new : DataTypeNew odbcDataType where
  wellTyped sqlType columnSize decimalDigits := by
    have hlength := nonZero_mem columnSize
    have hsize := toNat_le columnSize
    rw [odbcDataType]
    split <;> first
      | exact hlength
      | exact ⟨hsize, decimalDigits.property⟩
      | exact hsize
      | exact decimalDigits.property
      | exact ⟨sqlType.property, hlength, decimalDigits.property⟩
      | trivial
  other {sqlType columnSize decimalDigits code size digits} h := by
    rw [odbcDataType] at h
    split at h
    all_goals cases h
    refine ⟨rfl, fun columnSize' decimalDigits' ↦ ?_⟩
    -- The same code has no data type of its own this time either.
    rw [odbcDataType]
    split <;> first
      | rfl
      | contradiction

/-- A `DECIMAL(18, 4)`, read from its entries back to front. -/
theorem decimal_kept :
    deserialize odbcDataType
        (serialize ⟨odbcDataType ⟨3, by decide⟩ ⟨18, by decide⟩ ⟨4, by decide⟩⟩).reverse =
      .ok ⟨odbcDataType ⟨3, by decide⟩ ⟨18, by decide⟩ ⟨4, by decide⟩⟩ := by
  refine (offline_round_trip_iff odbcDataType_new ⟨3, by decide⟩ ⟨18, by decide⟩
    ⟨4, by decide⟩).2 ?_ _ (List.reverse_perm _)
  trivial

/-- A `TEXT` column loses its length. -/
theorem longVarchar_not_kept :
    let ty : MssqlTypeInfo :=
      ⟨odbcDataType ⟨-1, by decide⟩ ⟨2147483647, by decide⟩ ⟨0, by decide⟩⟩
    deserialize odbcDataType (serialize ty) ≠ .ok ty := by
  intro ty h
  have hlength : DataType.longVarchar none = .longVarchar (some 2147483647) :=
    congrArg MssqlTypeInfo.dataType (Except.ok.inj h)
  cases hlength

end MssqlOdbc
