import Mathlib.Data.Int.Notation
import MssqlOdbc.Error

/-!
# Column types and fetch buffers

The column data types the ODBC layer reports, the column metadata built from them, and the buffer
each of them is fetched into in buffered mode.
-/

set_option autoImplicit false

namespace MssqlOdbc

/-- `odbc_api::DataType`.  A `length` is a non-zero size when it is known. -/
inductive DataType where
  | unknown
  | char (length : Option ℕ)
  | wChar (length : Option ℕ)
  | numeric (precision : ℕ) (scale : ℤ)
  | decimal (precision : ℕ) (scale : ℤ)
  | integer
  | smallInt
  | float (precision : ℕ)
  | real
  | double
  | varchar (length : Option ℕ)
  | wVarchar (length : Option ℕ)
  | longVarchar (length : Option ℕ)
  | wLongVarchar (length : Option ℕ)
  | longVarbinary (length : Option ℕ)
  | date
  | time (precision : ℤ)
  | timestamp (precision : ℤ)
  | bigInt
  | tinyInt
  | bit
  | varbinary (length : Option ℕ)
  | binary (length : Option ℕ)
  | other (dataType : ℤ) (columnSize : Option ℕ) (decimalDigits : ℤ)
deriving DecidableEq, Repr

namespace DataType

/-- The display name of the type.  The names of the server's own types go by their type code. -/
def name : DataType → String
  | .bigInt => "BIGINT"
  | .binary _ => "BINARY"
  | .bit => "BIT"
  | .char _ => "CHAR"
  | .date => "DATE"
  | .decimal _ _ => "DECIMAL"
  | .double => "DOUBLE"
  | .float _ => "FLOAT"
  | .integer => "INTEGER"
  | .longVarbinary _ => "LONGVARBINARY"
  | .longVarchar _ => "LONGVARCHAR"
  | .numeric _ _ => "NUMERIC"
  | .real => "REAL"
  | .smallInt => "SMALLINT"
  | .time _ => "TIME"
  | .timestamp _ => "TIMESTAMP"
  | .tinyInt => "TINYINT"
  | .varbinary _ => "VARBINARY"
  | .varchar _ => "VARCHAR"
  | .wChar _ => "WCHAR"
  | .wLongVarchar _ => "WLONGVARCHAR"
  | .wVarchar _ => "WVARCHAR"
  | .unknown => "UNKNOWN"
  | .other sqlType _ _ =>
    if sqlType = -11 then "UNIQUEIDENTIFIER"
    else if sqlType = -150 then "SQL_VARIANT"
    else if sqlType = -151 then "UDT"
    else if sqlType = -152 then "XML"
    else if sqlType = -155 then "DATETIMEOFFSET"
    else if sqlType = -156 then "HIERARCHYID"
    else "OTHER"

def acceptsCharacterData : DataType → Bool
  | .char _ | .varchar _ | .longVarchar _ | .wChar _ | .wVarchar _ | .wLongVarchar _ => true
  | _ => false

def acceptsBinaryData : DataType → Bool
  | .binary _ | .varbinary _ | .longVarbinary _ => true
  | _ => false

def acceptsNumericData : DataType → Bool
  | .tinyInt | .smallInt | .integer | .bigInt | .real | .float _ | .double | .decimal _ _
  | .numeric _ _ => true
  | _ => false

/-- The derived `Debug` text of an optional size. -/
def debugLength : Option ℕ → String
  | none => "None"
  | some n => s!"Some({n})"

/-- The derived `Debug` text. -/
def debug : DataType → String
  | .unknown => "Unknown"
  | .char length => s!"Char \x7b length: {debugLength length} \x7d"
  | .wChar length => s!"WChar \x7b length: {debugLength length} \x7d"
  | .numeric precision scale => s!"Numeric \x7b precision: {precision}, scale: {scale} \x7d"
  | .decimal precision scale => s!"Decimal \x7b precision: {precision}, scale: {scale} \x7d"
  | .integer => "Integer"
  | .smallInt => "SmallInt"
  | .float precision => s!"Float \x7b precision: {precision} \x7d"
  | .real => "Real"
  | .double => "Double"
  | .varchar length => s!"Varchar \x7b length: {debugLength length} \x7d"
  | .wVarchar length => s!"WVarchar \x7b length: {debugLength length} \x7d"
  | .longVarchar length => s!"LongVarchar \x7b length: {debugLength length} \x7d"
  | .wLongVarchar length => s!"WLongVarchar \x7b length: {debugLength length} \x7d"
  | .longVarbinary length => s!"LongVarbinary \x7b length: {debugLength length} \x7d"
  | .date => "Date"
  | .time precision => s!"Time \x7b precision: {precision} \x7d"
  | .timestamp precision => s!"Timestamp \x7b precision: {precision} \x7d"
  | .bigInt => "BigInt"
  | .tinyInt => "TinyInt"
  | .bit => "Bit"
  | .varbinary length => s!"Varbinary \x7b length: {debugLength length} \x7d"
  | .binary length => s!"Binary \x7b length: {debugLength length} \x7d"
  | .other sqlType columnSize decimalDigits =>
    s!"Other \x7b data_type: SqlDataType({sqlType}), column_size: {debugLength columnSize}, " ++
      s!"decimal_digits: {decimalDigits} \x7d"

/-- An open type with the given code. -/
def isOther (code : ℤ) : DataType → Bool
  | .other sqlType _ _ => decide (sqlType = code)
  | _ => false

end DataType

/-- Type information for a value. -/
structure MssqlTypeInfo where
  dataType : DataType
deriving DecidableEq, Repr

/-- Column metadata for a result set.  `nullable` is `none` when the nullability is unknown. -/
structure MssqlColumn where
  ordinal : ℕ
  name : String
  typeInfo : MssqlTypeInfo
  nullable : Option Bool
deriving DecidableEq, Repr

/-- Fetch-buffer settings: `maxColumnSize = none` fetches unbuffered.  The setters refuse a
`batchSize` of zero. -/
structure MssqlBufferSettings where
  batchSize : ℕ
  maxColumnSize : Option ℕ
deriving DecidableEq, Repr

instance : Inhabited MssqlBufferSettings := ⟨{ batchSize := 64, maxColumnSize := none }⟩

/-- `odbc_api::buffers::BufferDesc`. -/
inductive BufferDesc where
  | i8 (nullable : Bool)
  | i16 (nullable : Bool)
  | i32 (nullable : Bool)
  | i64 (nullable : Bool)
  | u8 (nullable : Bool)
  | f32 (nullable : Bool)
  | f64 (nullable : Bool)
  | bit (nullable : Bool)
  | date (nullable : Bool)
  | time (nullable : Bool)
  | timestamp (nullable : Bool)
  | binary (maxBytes : ℕ)
  | text (maxStrLen : ℕ)
  | wText (maxStrLen : ℕ)
  | numeric
deriving DecidableEq, Repr

/-- The derived `Debug` text of a descriptor. -/
def BufferDesc.debug : BufferDesc → String
  | .i8 nullable => s!"I8 \x7b nullable: {nullable} \x7d"
  | .i16 nullable => s!"I16 \x7b nullable: {nullable} \x7d"
  | .i32 nullable => s!"I32 \x7b nullable: {nullable} \x7d"
  | .i64 nullable => s!"I64 \x7b nullable: {nullable} \x7d"
  | .u8 nullable => s!"U8 \x7b nullable: {nullable} \x7d"
  | .f32 nullable => s!"F32 \x7b nullable: {nullable} \x7d"
  | .f64 nullable => s!"F64 \x7b nullable: {nullable} \x7d"
  | .bit nullable => s!"Bit \x7b nullable: {nullable} \x7d"
  | .date nullable => s!"Date \x7b nullable: {nullable} \x7d"
  | .time nullable => s!"Time \x7b nullable: {nullable} \x7d"
  | .timestamp nullable => s!"Timestamp \x7b nullable: {nullable} \x7d"
  | .binary maxBytes => s!"Binary \x7b max_bytes: {maxBytes} \x7d"
  | .text maxStrLen => s!"Text \x7b max_str_len: {maxStrLen} \x7d"
  | .wText maxStrLen => s!"WText \x7b max_str_len: {maxStrLen} \x7d"
  | .numeric => "Numeric"

def mapBufferDesc (dataType : DataType) (maxColumnSize : ℕ) (nullable : Bool) : BufferDesc :=
  match dataType with
  | .tinyInt | .smallInt | .integer | .bigInt => .i64 nullable
  | .real => .f32 nullable
  | .float _ | .double => .f64 nullable
  | .bit => .bit nullable
  | .date => .date nullable
  | .time _ => .time nullable
  | .timestamp _ => .timestamp nullable
  | .binary _ | .varbinary _ | .longVarbinary _ => .binary maxColumnSize
  | .wChar _ | .wVarchar _ | .wLongVarchar _ => .wText maxColumnSize
  | .char _ | .varchar _ | .longVarchar _ | .other _ _ _ | .unknown | .decimal _ _
  | .numeric _ _ => .text maxColumnSize

/-- A column with the buffer it is fetched into. -/
structure ColumnBinding where
  column : MssqlColumn
  bufferDesc : BufferDesc
deriving DecidableEq, Repr

/-- Result summary of one statement. -/
structure MssqlQueryResult where
  rowsAffected : ℕ
deriving DecidableEq, Repr

/-- A row: its column metadata and one value for each column. -/
structure MssqlRow (V : Type) where
  columns : List MssqlColumn
  values : List V
deriving DecidableEq, Repr

end MssqlOdbc
