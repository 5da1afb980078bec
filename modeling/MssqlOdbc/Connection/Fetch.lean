import MssqlOdbc.Odbc
import MssqlOdbc.Value

/-!
# Fetching a cell

A cell is what the ODBC driver answers when it is asked for the column in one of the C types.  The
two fetch modes ask differently: unbuffered, `fetchValue` asks for the C type that fits the data
type of the column; buffered, the column was bound to a buffer beforehand, every integer column to
one of 64-bit integers and everything that has no buffer of its own to one of narrow text.

Both are written out as the source has them, and `Env.odbc` puts them to work in the streaming of
results.
-/

set_option autoImplicit false

namespace MssqlOdbc

/-! ## Cells -/

/-- What the driver answers for a cell, by C type: an error, NULL, or the value. -/
structure Cell where
  i8 : Except OdbcError (Option IntType.i8.Value)
  i16 : Except OdbcError (Option I16)
  i32 : Except OdbcError (Option I32)
  i64 : Except OdbcError (Option I64)
  u8 : Except OdbcError (Option IntType.u8.Value)
  f32 : Except OdbcError (Option Float32)
  f64 : Except OdbcError (Option Float)
  bit : Except OdbcError (Option Bool)
  date : Except OdbcError (Option Date)
  time : Except OdbcError (Option Time)
  timestamp : Except OdbcError (Option Timestamp)
  narrowText : Except OdbcError (Option (List UInt8))
  wideText : Except OdbcError (Option (List UInt16))
  binary : Except OdbcError (Option (List UInt8))

/-- NULL in every C type. -/
def Cell.null : Cell where
  i8 := .ok none
  i16 := .ok none
  i32 := .ok none
  i64 := .ok none
  u8 := .ok none
  f32 := .ok none
  f64 := .ok none
  bit := .ok none
  date := .ok none
  time := .ok none
  timestamp := .ok none
  narrowText := .ok none
  wideText := .ok none
  binary := .ok none

/-! ## Unbuffered -/

def fetchContext (column : MssqlColumn) : String :=
  s!"failed to fetch ODBC column {column.ordinal + 1} (`{column.name}`) as " ++
    column.typeInfo.dataType.debug

/-- Asks for the cell in one C type. -/
def fetchNullable {α : Type} (column : MssqlColumn) (answer : Except OdbcError (Option α))
    (map : α → MssqlValueKind) : Except Error MssqlValueKind :=
  match answer with
  | .error e => .error (databaseError (fetchContext column) e)
  | .ok none => .ok .null
  | .ok (some x) => .ok (map x)

/-- The bytes of a `UNIQUEIDENTIFIER`.  Sixteen of them are the value; anything else is taken for
text, one character for each byte. -/
def guidOrText (bytes : List UInt8) : MssqlValueKind :=
  if h : bytes.length = 16 then .guid ⟨bytes.toArray, h⟩
  else .text (Utf16.ofUtf16Lossy (bytes.map fun b ↦ UInt16.ofNat b.toNat))

def fetchKind (column : MssqlColumn) (cell : Cell) : Except Error MssqlValueKind :=
  match column.typeInfo.dataType with
  | .bit => fetchNullable column cell.bit .bit
  | .tinyInt => fetchNullable column cell.i16 .tinyInt
  | .smallInt => fetchNullable column cell.i16 .smallInt
  | .integer => fetchNullable column cell.i32 .integer
  | .bigInt => fetchNullable column cell.i64 .bigInt
  | .real => fetchNullable column cell.f32 .real
  | .float _ | .double => fetchNullable column cell.f64 .double
  | .date => fetchNullable column cell.date .date
  | .time _ => fetchNullable column cell.time .time
  | .timestamp _ => fetchNullable column cell.timestamp .timestamp
  | .binary _ | .varbinary _ | .longVarbinary _ => fetchNullable column cell.binary .binary
  | .decimal precision scale | .numeric precision scale =>
    fetchNullable column cell.wideText fun units ↦
      .decimal (Utf16.ofUtf16Lossy units) precision scale
  | .other sqlType _ _ =>
    if sqlType = -11 then fetchNullable column cell.binary guidOrText
    else fetchNullable column cell.wideText fun units ↦ .text (Utf16.ofUtf16Lossy units)
  | _ => fetchNullable column cell.wideText fun units ↦ .text (Utf16.ofUtf16Lossy units)

def fetchValue (column : MssqlColumn) (cell : Cell) : Except Error MssqlValue :=
  (fetchKind column cell).map MssqlValue.mk

/-! ## Buffered -/

/-- What a buffer holds of an answer.  An error is reported by the fetch of the row set, and nothing
is read from its buffers. -/
def bound {α : Type} (answer : Except OdbcError (Option α)) : Option α :=
  match answer with
  | .ok value => value
  | .error _ => none

/-- A buffer without indicators has no NULLs: it holds what it was filled with before. -/
def bufferedNumeric {α : Type} [Inhabited α] (nullable : Bool) (map : α → MssqlValueKind)
    (value : Option α) : MssqlValueKind :=
  match nullable, value with
  | _, some x => map x
  | true, none => .null
  | false, none => map default

/-- A buffer for variable sizes always has indicators, and cuts what does not fit. -/
def bufferedSlice {α : Type} (max : ℕ) (map : List α → MssqlValueKind) (value : Option (List α)) :
    MssqlValueKind :=
  match value with
  | some units => map (units.take max)
  | none => .null

/-- Columns of exact numbers share the text buffer with the character columns. -/
def bufferedText (dataType : DataType) (bytes : List UInt8) : MssqlValueKind :=
  match dataType with
  | .decimal precision scale | .numeric precision scale =>
    .decimal (Utf8.ofUtf8Lossy bytes) precision scale
  | _ => .text (Utf8.ofUtf8Lossy bytes)

def bufferedKind (binding : ColumnBinding) : Except Error (Cell → MssqlValueKind) :=
  match binding.bufferDesc with
  | .i8 nullable => .ok fun cell ↦
    bufferedNumeric nullable (fun v ↦ .tinyInt (IntType.Value.widen v)) (bound cell.i8)
  | .i16 nullable => .ok fun cell ↦ bufferedNumeric nullable .smallInt (bound cell.i16)
  | .i32 nullable => .ok fun cell ↦ bufferedNumeric nullable .integer (bound cell.i32)
  | .i64 nullable => .ok fun cell ↦ bufferedNumeric nullable .bigInt (bound cell.i64)
  | .u8 nullable => .ok fun cell ↦
    bufferedNumeric nullable (fun v ↦ .bigInt (IntType.Value.widen v)) (bound cell.u8)
  | .f32 nullable => .ok fun cell ↦ bufferedNumeric nullable .real (bound cell.f32)
  | .f64 nullable => .ok fun cell ↦ bufferedNumeric nullable .double (bound cell.f64)
  | .bit nullable => .ok fun cell ↦ bufferedNumeric nullable .bit (bound cell.bit)
  | .date nullable => .ok fun cell ↦ bufferedNumeric nullable .date (bound cell.date)
  | .time nullable => .ok fun cell ↦ bufferedNumeric nullable .time (bound cell.time)
  | .timestamp nullable => .ok fun cell ↦
    bufferedNumeric nullable .timestamp (bound cell.timestamp)
  | .text max => .ok fun cell ↦
    bufferedSlice max (bufferedText binding.column.typeInfo.dataType) (bound cell.narrowText)
  | .wText max => .ok fun cell ↦
    bufferedSlice max (fun units ↦ .text (Utf16.ofUtf16Lossy units)) (bound cell.wideText)
  | .binary max => .ok fun cell ↦ bufferedSlice max .binary (bound cell.binary)
  | .numeric =>
    .error (.protocol s!"unsupported ODBC buffer descriptor: {binding.bufferDesc.debug}")

/-- `buffered_column_values`, for one cell of the column. -/
def bufferedColumn (binding : ColumnBinding) : Except Error (Cell → MssqlValue) :=
  (bufferedKind binding).map fun convert cell ↦ ⟨convert cell⟩

/-- The binding of a column, as `build_buffer_bindings` makes it. -/
def MssqlColumn.binding (column : MssqlColumn) (maxColumnSize : ℕ) : ColumnBinding where
  column := column
  bufferDesc := mapBufferDesc column.typeInfo.dataType maxColumnSize (column.nullable.getD true)

/-! ## The modes -/

/-- How a result set is fetched; buffered, up to a column size. -/
inductive FetchMode where
  | unbuffered
  | buffered (maxColumnSize : ℕ)
deriving DecidableEq, Repr

def FetchMode.fetch (mode : FetchMode) (column : MssqlColumn) (cell : Cell) :
    Except Error MssqlValue :=
  match mode with
  | .unbuffered => fetchValue column cell
  | .buffered maxColumnSize =>
    (bufferedColumn (column.binding maxColumnSize)).map fun convert ↦ convert cell

/-! ## The driver -/

/-- A server whose cells are read by the driver's own conversions. -/
def Env.odbc {C A : Type} (exec : String → List A → C → Batch Cell × C)
    (prepare : String → C → Except OdbcError PreparedInfo) (refusal : Sql → OdbcError)
    (cache : CacheImpl String (Prepared Cell)) : Env C Cell A MssqlValue where
  exec := exec
  prepare := prepare
  refusal := refusal
  fetchValue := MssqlOdbc.fetchValue
  bufferedColumn := MssqlOdbc.bufferedColumn
  getI64 cell := cell.i64.map (Option.map Subtype.val)
  getBinary := Cell.binary
  cache := cache

end MssqlOdbc
