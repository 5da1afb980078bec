import Mathlib.Tactic.IntervalCases
import MssqlOdbc.Lib.Utf
import MssqlOdbc.Text
import MssqlOdbc.TypeInfo

/-!
# Values

A fetched value is one of fifteen kinds.  What can be read of it goes through a few accessors:
as an integer, as a floating point number, as a boolean, as text and as bytes.  Everything that is
decoded from a value looks at it only through these and through the three temporal kinds, so the
accessors together (`MssqlValueRef.readings`) are all there is to see of a value.

The owned value and the reference to it differ in one point: a GUID has a text only when owned,
since a reference cannot allocate one.  Its sixteen bytes are those of the server, with the
first three groups turned around (`Guid.sqlLayout`).
-/

set_option autoImplicit false

namespace MssqlOdbc

/-! ## ODBC structures -/

/-- `odbc_api::sys::Date`. -/
structure Date where
  year : I16
  month : U16
  day : U16
deriving DecidableEq, Repr, Inhabited

/-- `odbc_api::sys::Time`. -/
structure Time where
  hour : U16
  minute : U16
  second : U16
deriving DecidableEq, Repr, Inhabited

/-- `odbc_api::sys::Timestamp`; the `fraction` is in nanoseconds. -/
structure Timestamp where
  year : I16
  month : U16
  day : U16
  hour : U16
  minute : U16
  second : U16
  fraction : U32
deriving DecidableEq, Repr, Inhabited

/-- The sixteen bytes of a `UNIQUEIDENTIFIER`. -/
abbrev Guid : Type := Vector UInt8 16

/-! ## Kinds -/

/-- The kinds of values.  A `tinyInt` is unsigned in the database and read as an `i16`. -/
inductive MssqlValueKind where
  | null
  | tinyInt (value : I16)
  | smallInt (value : I16)
  | integer (value : I32)
  | bigInt (value : I64)
  | real (value : Float32)
  | double (value : Float)
  | bit (value : Bool)
  | text (value : String)
  | binary (value : List UInt8)
  | guid (bytes : Guid)
  | date (value : Date)
  | time (value : Time)
  | timestamp (value : Timestamp)
  /-- An exact number, as the digits the driver renders it with. -/
  | decimal (text : String) (precision : ℕ) (scale : ℤ)

/-- The type a value reports for itself. -/
def MssqlValueKind.typeInfo (kind : MssqlValueKind) : MssqlTypeInfo where
  dataType := match kind with
    | .null => .unknown
    | .tinyInt _ => .tinyInt
    | .smallInt _ => .smallInt
    | .integer _ => .integer
    | .bigInt _ => .bigInt
    | .real _ => .real
    | .double _ => .double
    | .bit _ => .bit
    | .text _ => .wVarchar none
    | .decimal _ precision scale => .decimal precision scale
    | .binary _ => .varbinary none
    | .guid _ => .other (-11) none 0
    | .date _ => .date
    | .time _ => .time 0
    | .timestamp _ => .timestamp 6

/-- An owned value. -/
structure MssqlValue where
  kind : MssqlValueKind

/-- A borrowed value. -/
structure MssqlValueRef where
  value : MssqlValue

/-! ## Reading text -/

/-- Trims a number rendered by the driver and undoes a decimal comma. -/
def normalizeDecimal (text : String) : String :=
  String.ofList ((trim text).toList.map fun c ↦ if c = ',' then '.' else c)

/-- An integer, or a number whose fraction is all zeros. -/
def parseIntegerText (value : String) : Option I64 :=
  let value := (trim value).toList
  match parseInt .i64 value with
  | some n => some n
  | none =>
    match splitOnce '.' value with
    | none => none
    | some (integer, fraction) =>
      if fraction.all (fun c ↦ c = '0') then parseInt .i64 integer else none

def parseBoolText (value : String) : Option Bool :=
  let value := trim value
  if value ∈ ["0", "0.0", "false", "FALSE", "f", "F"] then some false
  else if value ∈ ["1", "1.0", "true", "TRUE", "t", "T"] then some true
  else
    match parseF64 value.toList with
    | some x => some (x != 0.0)
    | none => (parseInt .i64 value.toList).map fun n ↦ decide (n.val ≠ 0)

/-- `{:02x}`. -/
def lowerHex (byte : UInt8) : List Char :=
  [Nat.digitChar (byte.toNat / 16), Nat.digitChar (byte.toNat % 16)]

/-- Two digits for each byte. -/
def hexGroup (bytes : List UInt8) : List Char := bytes.flatMap lowerHex

/-- The text of a GUID: its first three groups are stored with the low byte first. -/
def uuidGuidToString (bytes : Guid) : String :=
  String.ofList (hexGroup [bytes[3], bytes[2], bytes[1], bytes[0]] ++
    '-' :: hexGroup [bytes[5], bytes[4]] ++
    '-' :: hexGroup [bytes[7], bytes[6]] ++
    '-' :: hexGroup [bytes[8], bytes[9]] ++
    '-' :: hexGroup [bytes[10], bytes[11], bytes[12], bytes[13], bytes[14], bytes[15]])

/-! ## The layout of a GUID -/

namespace Guid

/-- The binary form of a UUID, and the UUID of a binary form. -/
def sqlLayout (u : Guid) : Guid :=
  #v[u[3], u[2], u[1], u[0], u[5], u[4], u[7], u[6], u[8], u[9], u[10], u[11], u[12], u[13], u[14],
    u[15]]

/-- The first three groups read the same in both directions. -/
def Symmetric (u : Guid) : Prop := u[0] = u[3] ∧ u[1] = u[2] ∧ u[4] = u[5] ∧ u[6] = u[7]

theorem toList_eq (u : Guid) :
    u.toList = [u[0], u[1], u[2], u[3], u[4], u[5], u[6], u[7], u[8], u[9], u[10], u[11], u[12],
      u[13], u[14], u[15]] := by
  apply List.ext_getElem
  · rw [Vector.length_toList]
    rfl
  · intro i hi hi'
    have hlt : i < 16 := hi'
    interval_cases i <;> rfl

theorem sqlLayout_sqlLayout (u : Guid) : u.sqlLayout.sqlLayout = u := by
  apply Vector.toList_inj.1
  rw [toList_eq u]
  rfl

/-- The layout leaves alone what is symmetric, and nothing else. -/
theorem sqlLayout_eq_iff {u : Guid} : u.sqlLayout = u ↔ u.Symmetric := by
  constructor
  · intro h
    have h3 : u[0] = u[3] := congrArg (fun v : Guid ↦ v[3]) h
    have h2 : u[1] = u[2] := congrArg (fun v : Guid ↦ v[2]) h
    have h5 : u[4] = u[5] := congrArg (fun v : Guid ↦ v[5]) h
    have h7 : u[6] = u[7] := congrArg (fun v : Guid ↦ v[7]) h
    exact ⟨h3, h2, h5, h7⟩
  · rintro ⟨h03, h12, h45, h67⟩
    rw [← Vector.toList_inj, toList_eq u]
    show [u[3], u[2], u[1], u[0], u[5], u[4], u[7], u[6], u[8], u[9], u[10], u[11], u[12], u[13],
      u[14], u[15]] = _
    rw [h03, h12, h45, h67]

end Guid

/-! ## Accessors -/

namespace MssqlValue

def isNull (value : MssqlValue) : Bool :=
  match value.kind with
  | .null => true
  | _ => false

def asI64 (value : MssqlValue) : Option I64 :=
  match value.kind with
  | .tinyInt v => some (IntType.Value.widen v)
  | .smallInt v => some (IntType.Value.widen v)
  | .integer v => some (IntType.Value.widen v)
  | .bigInt v => some v
  | .text text => parseIntegerText text
  | .decimal text _ _ => parseIntegerText (normalizeDecimal text)
  | _ => none

def asF64 (value : MssqlValue) : Option Float :=
  match value.kind with
  | .real v => some v.toFloat
  | .double v => some v
  | .tinyInt v => some (Float.ofInt v.val)
  | .smallInt v => some (Float.ofInt v.val)
  | .integer v => some (Float.ofInt v.val)
  | .bigInt v => some (Float.ofInt v.val)
  | .text text => parseF64 (trim text).toList
  | .decimal text _ _ => parseF64 (normalizeDecimal text).toList
  | _ => none

def asStr (value : MssqlValue) : Option String :=
  match value.kind with
  | .text text => some text
  | .decimal text _ _ => some text
  | .guid bytes => some (uuidGuidToString bytes)
  | _ => none

def asBytes (value : MssqlValue) : Option (List UInt8) :=
  match value.kind with
  | .binary bytes => some bytes
  | .text text => some (Utf8.encode text)
  | .decimal text _ _ => some (Utf8.encode text)
  | .guid bytes => some bytes.toList
  | _ => none

def typeInfo (value : MssqlValue) : MssqlTypeInfo := value.kind.typeInfo

end MssqlValue

namespace MssqlValueRef

def isNull (value : MssqlValueRef) : Bool := value.value.isNull

def typeInfo (value : MssqlValueRef) : MssqlTypeInfo := value.value.kind.typeInfo

def asI64 (value : MssqlValueRef) : Option I64 := value.value.asI64

def asF64 (value : MssqlValueRef) : Option Float := value.value.asF64

def asStr (value : MssqlValueRef) : Option String :=
  match value.value.kind with
  | .text text => some text
  | .decimal text _ _ => some text
  | _ => none

def asBytes (value : MssqlValueRef) : Option (List UInt8) :=
  match value.value.kind with
  | .binary bytes => some bytes
  | .text text => some (Utf8.encode text)
  | .decimal text _ _ => some (Utf8.encode text)
  | .guid bytes => some bytes.toList
  | _ => none

def asBool (value : MssqlValueRef) : Option Bool :=
  match value.value.kind with
  | .bit v => some v
  | .tinyInt v => some (decide (v.val ≠ 0))
  | .smallInt v => some (decide (v.val ≠ 0))
  | .integer v => some (decide (v.val ≠ 0))
  | .bigInt v => some (decide (v.val ≠ 0))
  | .real v => some (v != 0.0)
  | .double v => some (v != 0.0)
  | .text text => parseBoolText text
  | .decimal text _ _ => parseBoolText (normalizeDecimal text)
  | _ => none

def rawDate (value : MssqlValueRef) : Option Date :=
  match value.value.kind with
  | .date date => some date
  | _ => none

def rawTime (value : MssqlValueRef) : Option Time :=
  match value.value.kind with
  | .time time => some time
  | _ => none

def rawTimestamp (value : MssqlValueRef) : Option Timestamp :=
  match value.value.kind with
  | .timestamp timestamp => some timestamp
  | _ => none

/-- The text without trailing NULs and surrounding whitespace. -/
def trimmedText (value : MssqlValueRef) : Option String :=
  value.asStr.map fun text ↦ trim (trimEnd (fun c ↦ c = '\x00') text)

end MssqlValueRef

/-- All that the decoders read of a value. -/
structure Readings where
  asI64 : Option I64
  asF64 : Option Float
  asStr : Option String
  asBytes : Option (List UInt8)
  asBool : Option Bool
  rawDate : Option Date
  rawTime : Option Time
  rawTimestamp : Option Timestamp

def MssqlValueRef.readings (value : MssqlValueRef) : Readings where
  asI64 := value.asI64
  asF64 := value.asF64
  asStr := value.asStr
  asBytes := value.asBytes
  asBool := value.asBool
  rawDate := value.rawDate
  rawTime := value.rawTime
  rawTimestamp := value.rawTimestamp

end MssqlOdbc
