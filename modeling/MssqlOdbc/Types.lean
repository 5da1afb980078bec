import MssqlOdbc.Text
import MssqlOdbc.TypeInfo

/-!
# The Rust types

Every Rust type that can be bound to a parameter or read from a column declares the data type it is
bound as (`typeInfo`) and the data types it can be read from (`compatible`).  Reading a column
checks the type a *value* reports against the second.
-/

set_option autoImplicit false

namespace MssqlOdbc

/-- The supported Rust types: those of the language and of the ODBC layer, then those of `chrono`,
of `time`, and of the crates for numbers, UUIDs, JSON and geometry. -/
inductive RustType where
  | int (ty : IntType)
  | bool
  | f32
  | f64
  | str
  | string
  | byteSlice
  | bytes
  | date
  | time
  | timestamp
  | naiveDate
  | naiveTime
  | naiveDateTime
  | dateTimeUtc
  | dateTimeFixed
  | dateTimeLocal
  | timeDate
  | timeTime
  | primitiveDateTime
  | offsetDateTime
  | decimal
  | bigDecimal
  | uuid
  | json
  | geometry
deriving DecidableEq, Repr

/-! ## Declared types -/

def IntType.dataType : IntType → DataType
  | .i8 | .u8 => .tinyInt
  | .i16 | .u16 => .smallInt
  | .i32 | .u32 => .integer
  | .i64 | .u64 => .bigInt

namespace MssqlTypeInfo

/-- `UNIQUEIDENTIFIER`. -/
def guid : MssqlTypeInfo := ⟨.other (-11) none 0⟩

def datetimeoffset : MssqlTypeInfo := ⟨.other (-155) none 0⟩

/-- The spatial types, which are user-defined types of the server. -/
def geometry : MssqlTypeInfo := ⟨.other (-151) none 0⟩

end MssqlTypeInfo

/-- `Type::type_info`. -/
def RustType.typeInfo : RustType → MssqlTypeInfo
  | .int ty => ⟨ty.dataType⟩
  | .bool => ⟨.bit⟩
  | .f32 => ⟨.real⟩
  | .f64 => ⟨.double⟩
  | .str | .string => ⟨.wVarchar none⟩
  | .byteSlice | .bytes => ⟨.varbinary none⟩
  | .date | .naiveDate | .timeDate => ⟨.date⟩
  | .time | .naiveTime | .timeTime => ⟨.time 0⟩
  | .timestamp | .naiveDateTime | .primitiveDateTime => ⟨.timestamp 0⟩
  | .dateTimeUtc | .dateTimeFixed | .dateTimeLocal | .offsetDateTime => .datetimeoffset
  | .decimal | .bigDecimal => ⟨.numeric 28 4⟩
  | .uuid => .guid
  | .json => ⟨.varchar none⟩
  | .geometry => .geometry

/-! ## Compatible types -/

section Compatible

variable (ty : MssqlTypeInfo)

/-- An integer type names the integer columns it is meant for, takes exact numbers, and then takes
everything numeric. -/
def integerCompatible (named : List DataType) : Bool :=
  (decide (ty.dataType ∈ named) ||
    match ty.dataType with
    | .numeric _ _ | .decimal _ _ => true
    | _ => false) || ty.dataType.acceptsNumericData

def IntType.compatible : IntType → Bool
  | .i8 | .i16 | .i32 | .i64 | .u8 => integerCompatible ty [.tinyInt, .smallInt, .integer, .bigInt]
  | .u16 => integerCompatible ty [.smallInt, .integer, .bigInt]
  | .u32 => integerCompatible ty [.integer, .bigInt]
  | .u64 => integerCompatible ty [.integer, .bigInt]

/-- Character columns, and the types of the server that are fetched as text. -/
def strCompatible : Bool :=
  ty.dataType.acceptsCharacterData ||
    match ty.dataType with
    | .other sqlType _ _ => decide (sqlType ∈ [-150, -151, -152, -156])
    | _ => false

def bytesCompatible : Bool := ty.dataType.acceptsBinaryData || ty.dataType.acceptsCharacterData

def isDate : Bool := decide (ty.dataType = .date)

def isTime : Bool :=
  match ty.dataType with
  | .time _ => true
  | _ => false

def isTimestamp : Bool :=
  match ty.dataType with
  | .timestamp _ => true
  | _ => false

/-- A date-time with an offset is also read from the server's own type, and from text. -/
def offsetCompatible : Bool :=
  isTimestamp ty || ty.dataType.isOther (-155) || ty.dataType.acceptsCharacterData

def decimalCompatible : Bool :=
  match ty.dataType with
  | .numeric _ _ | .decimal _ _ | .double | .float _ => true
  | _ => false

/-- `Type::compatible`. -/
def RustType.compatible : RustType → Bool
  | .int i => i.compatible ty
  | .bool | .f32 | .f64 => ty.dataType.acceptsNumericData
  | .str | .string => strCompatible ty
  | .byteSlice | .bytes => bytesCompatible ty
  | .date => isDate ty
  | .time => isTime ty
  | .timestamp => isTimestamp ty
  | .naiveDate | .timeDate => isDate ty || ty.dataType.acceptsCharacterData
  | .naiveTime | .timeTime => isTime ty || ty.dataType.acceptsCharacterData
  | .naiveDateTime | .primitiveDateTime => isTimestamp ty || ty.dataType.acceptsCharacterData
  | .dateTimeUtc | .dateTimeFixed | .dateTimeLocal | .offsetDateTime => offsetCompatible ty
  | .decimal | .bigDecimal => decimalCompatible ty
  | .uuid => ty.dataType.isOther (-11)
  | .json => ty.dataType.acceptsCharacterData
  | .geometry => ty.dataType.isOther (-151) || ty.dataType.acceptsBinaryData

end Compatible

/-! ## Data types that are as good as one another -/

/-- What an integer type names adds nothing: it reads from whatever is numeric. -/
@[simp] theorem IntType.compatible_eq (ty : MssqlTypeInfo) (i : IntType) :
    i.compatible ty = ty.dataType.acceptsNumericData := by
  obtain ⟨dataType⟩ := ty
  cases i <;> cases dataType <;> rfl

theorem IntType.compatible_eq_false {ty : MssqlTypeInfo} {i : IntType}
    (h : ty.dataType.acceptsNumericData = false) : (RustType.int i).compatible ty = false := by
  rw [RustType.compatible, IntType.compatible_eq, h]

/-- Every Rust type that is read from one of the integer types is read from all of them. -/
theorem compatible_integers (t : RustType) {dataType dataType' : DataType}
    (h : dataType ∈ [.tinyInt, .smallInt, .integer, .bigInt])
    (h' : dataType' ∈ [.tinyInt, .smallInt, .integer, .bigInt]) :
    t.compatible ⟨dataType⟩ = t.compatible ⟨dataType'⟩ := by
  have hbigInt {dataType : DataType} (h : dataType ∈ [.tinyInt, .smallInt, .integer, .bigInt]) :
      t.compatible ⟨dataType⟩ = t.compatible ⟨.bigInt⟩ := by
    simp only [List.mem_cons, List.not_mem_nil, or_false] at h
    rcases h with rfl | rfl | rfl | rfl <;> cases t with
    | int i => exact (IntType.compatible_eq _ i).trans (IntType.compatible_eq _ i).symm
    | _ => rfl
  rw [hbigInt h, hbigInt h']

theorem compatible_characters (t : RustType) {dataType : DataType}
    (h : dataType.acceptsCharacterData = true) :
    t.compatible ⟨dataType⟩ = t.compatible ⟨.wVarchar none⟩ := by
  cases dataType with
  | char _ | varchar _ | longVarchar _ | wChar _ | wVarchar _ | wLongVarchar _ => cases t with
    | int i => exact (IntType.compatible_eq _ i).trans (IntType.compatible_eq _ i).symm
    | _ => rfl
  | _ => cases h

theorem compatible_binaries (t : RustType) {dataType : DataType}
    (h : dataType.acceptsBinaryData = true) :
    t.compatible ⟨dataType⟩ = t.compatible ⟨.varbinary none⟩ := by
  cases dataType with
  | binary _ | varbinary _ | longVarbinary _ => cases t with
    | int i => exact (IntType.compatible_eq _ i).trans (IntType.compatible_eq _ i).symm
    | _ => rfl
  | _ => cases h

/-- `FLOAT` columns are as good as `DOUBLE` ones. -/
theorem compatible_float (t : RustType) (precision : ℕ) :
    t.compatible ⟨.float precision⟩ = t.compatible ⟨.double⟩ := by
  cases t with
  | int i => exact (IntType.compatible_eq _ i).trans (IntType.compatible_eq _ i).symm
  | _ => rfl

theorem compatible_numeric (t : RustType) (precision : ℕ) (scale : ℤ) :
    t.compatible ⟨.numeric precision scale⟩ = t.compatible ⟨.decimal precision scale⟩ := by
  cases t with
  | int i => exact (IntType.compatible_eq _ i).trans (IntType.compatible_eq _ i).symm
  | _ => rfl

/-- The precision of a time or of a timestamp does not matter. -/
theorem compatible_time (t : RustType) (precision precision' : ℤ) :
    t.compatible ⟨.time precision⟩ = t.compatible ⟨.time precision'⟩ := by
  cases t with
  | int i => exact (IntType.compatible_eq _ i).trans (IntType.compatible_eq _ i).symm
  | _ => rfl

theorem compatible_timestamp (t : RustType) (precision precision' : ℤ) :
    t.compatible ⟨.timestamp precision⟩ = t.compatible ⟨.timestamp precision'⟩ := by
  cases t with
  | int i => exact (IntType.compatible_eq _ i).trans (IntType.compatible_eq _ i).symm
  | _ => rfl

/-- Neither the size nor the digits of one of the server's own types matter. -/
theorem compatible_other (t : RustType) (sqlType : ℤ) (size size' : Option ℕ)
    (digits digits' : ℤ) :
    t.compatible ⟨.other sqlType size digits⟩ = t.compatible ⟨.other sqlType size' digits'⟩ := by
  cases t with
  | int i => exact (IntType.compatible_eq _ i).trans (IntType.compatible_eq _ i).symm
  | _ => rfl

end MssqlOdbc
