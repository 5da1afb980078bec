import Mathlib.Data.List.Forall2
import MssqlOdbc.Lib.Utf
import MssqlOdbc.Temporal.Encoded

/-!
# Parameters

Before a statement is executed, its arguments are put into the boxes that `odbc_api` binds: texts as
UTF-16, integers as 64-bit ones, and a NULL into a box for the data type it was given.  The boxes
know their data type, or are told.

What the server reads off a box is the argument that went into it (`argument_valueToParameter`), the
data type of a NULL included.  Together with `encode` this says what becomes of a Rust value on the
way to the server (`parameters_faithful`).
-/

set_option autoImplicit false

namespace MssqlOdbc

/-! ## Boxes -/

/-- The boxes of `odbc_api` that the driver uses; `none` is NULL. -/
inductive ParameterBox where
  | varWChar (units : Option (List UInt16))
  | varChar (bytes : Option (List UInt8))
  | varBinary (bytes : Option (List UInt8))
  | i8 (value : Option IntType.i8.Value)
  | i16 (value : Option I16)
  | i32 (value : Option I32)
  | i64 (value : Option I64)
  | bit (value : Option Bool)
  | f32 (value : Option Float32)
  | f64 (value : Option Float)
  | date (value : Option Date)
  | time (value : Option Time)
  | timestamp (value : Option Timestamp)

/-- An `InputParameter`: a box, and the data type it was wrapped with (`WithDataType`). -/
structure InputParameter where
  box : ParameterBox
  declared : Option DataType

/-- The data types `odbc_api` chooses for boxes with a length, for texts and for binary data. -/
structure LengthTypes where
  wide : ℕ → DataType
  narrow : ℕ → DataType
  binary : ℕ → DataType
  wide_character : ∀ length, (wide length).acceptsCharacterData = true
  binary_binary : ∀ length, (binary length).acceptsBinaryData = true

/-- `HasDataType`: the data type a box is bound as if it is not wrapped.  Times and timestamps have
no data type of their own. -/
def ParameterBox.dataType (types : LengthTypes) : ParameterBox → DataType
  | .varWChar units => types.wide (units.getD []).length
  | .varChar bytes => types.narrow (bytes.getD []).length
  | .varBinary bytes => types.binary (bytes.getD []).length
  | .i8 _ => .tinyInt
  | .i16 _ => .smallInt
  | .i32 _ => .integer
  | .i64 _ => .bigInt
  | .bit _ => .bit
  | .f32 _ => .real
  | .f64 _ => .double
  | .date _ => .date
  | .time _ | .timestamp _ => .unknown

def InputParameter.dataType (types : LengthTypes) (parameter : InputParameter) : DataType :=
  parameter.declared.getD (parameter.box.dataType types)

/-- A typed NULL.  For the server only the indicator and the data type matter. -/
def nullParameter (dataType : DataType) : InputParameter :=
  match dataType with
  | .tinyInt => ⟨.i8 none, none⟩
  | .smallInt => ⟨.i16 none, none⟩
  | .integer => ⟨.i32 none, none⟩
  | .bigInt => ⟨.i64 none, none⟩
  | .bit => ⟨.bit none, none⟩
  | .real => ⟨.f32 none, none⟩
  | .double => ⟨.f64 none, none⟩
  | .float _ => ⟨.f64 none, some dataType⟩
  | .date => ⟨.date none, none⟩
  | .time _ => ⟨.time none, some dataType⟩
  | .timestamp _ => ⟨.timestamp none, some dataType⟩
  | .varbinary _ | .longVarbinary _ | .binary _ => ⟨.varBinary none, some dataType⟩
  | .wVarchar _ | .wLongVarchar _ | .wChar _ => ⟨.varWChar none, some dataType⟩
  | .char _ | .varchar _ | .longVarchar _ | .numeric _ _ | .decimal _ _ | .unknown
  | .other _ _ _ => ⟨.varChar none, some dataType⟩

def valueToParameter : MssqlArgumentValue → InputParameter
  -- texts are bound as UTF-16: a narrow binding would depend on the code page
  | .text value => ⟨.varWChar (some (Utf16.encode value)), none⟩
  | .bytes value => ⟨.varBinary (some value), none⟩
  | .int value => ⟨.i64 (some value), none⟩
  | .bit value => ⟨.bit (some value), none⟩
  | .float value => ⟨.f64 (some value), none⟩
  | .date value => ⟨.date (some value), none⟩
  | .time value => ⟨.time (some value), some (.time 0)⟩
  | .timestamp value => ⟨.timestamp (some value), some (.timestamp 6)⟩
  | .null typeInfo => nullParameter typeInfo.dataType

/-- `to_odbc_parameter_collection`. -/
def MssqlParameterCollection.fromValues (values : List MssqlArgumentValue) : List InputParameter :=
  values.map valueToParameter

/-! ## What the server reads -/

/-- The value in a box, unless it is NULL. -/
def ParameterBox.value : ParameterBox → Option MssqlArgumentValue
  | .varWChar units => units.map fun units ↦ .text (Utf16.ofUtf16Lossy units)
  | .varChar bytes => bytes.map fun bytes ↦ .text (Utf8.ofUtf8Lossy bytes)
  | .varBinary bytes => bytes.map .bytes
  | .i8 value => value.bind fun n ↦ (IntType.i64.tryFrom n.val).map .int
  | .i16 value => value.bind fun n ↦ (IntType.i64.tryFrom n.val).map .int
  | .i32 value => value.bind fun n ↦ (IntType.i64.tryFrom n.val).map .int
  | .i64 value => value.map .int
  | .bit value => value.map .bit
  | .f32 value => value.map fun x ↦ .float x.toFloat
  | .f64 value => value.map .float
  | .date value => value.map .date
  | .time value => value.map .time
  | .timestamp value => value.map .timestamp

namespace InputParameter

variable (types : LengthTypes) (parameter : InputParameter)

/-- A NULL is read as one of the data type it is bound as. -/
def argument : MssqlArgumentValue :=
  parameter.box.value.getD (.null ⟨parameter.dataType types⟩)

/-- The fraction of a second has no more digits than the data type: under precision 6 it is a whole
number of microseconds.  This does not bound it.  In a leap second it is `10 ^ 9` or more. -/
def Precise : Prop :=
  ∀ (timestamp : Timestamp) (precision : ℤ), parameter.box = .timestamp (some timestamp) →
    parameter.declared = some (.timestamp precision) →
    (10 : ℤ) ^ (9 - precision).toNat ∣ timestamp.fraction.val

end InputParameter

variable (types : LengthTypes)

@[simp] theorem nullParameter_dataType (dataType : DataType) :
    (nullParameter dataType).dataType types = dataType := by
  cases dataType <;> rfl

@[simp] theorem nullParameter_value (dataType : DataType) :
    (nullParameter dataType).box.value = none := by
  cases dataType <;> rfl

/-- **What goes into a box comes out of it.** -/
theorem argument_valueToParameter (value : MssqlArgumentValue) :
    (valueToParameter value).argument types = value := by
  cases value with
  | text value =>
    show MssqlArgumentValue.text (Utf16.ofUtf16Lossy (Utf16.encode value)) = _
    rw [Utf16.ofUtf16Lossy_encode]
  | null typeInfo =>
    rw [valueToParameter, InputParameter.argument, nullParameter_value, nullParameter_dataType]
    rfl
  | _ => rfl

/-! ## Rust values -/

/-- A value of one of the supported types, or nothing. -/
structure Optional (X : Crates) where
  type : RustType
  value : Option (type.Carrier X)

variable {X : Crates} (W : X.Writers)

/-- `Arguments::add`, for one value after the other, up to the first that cannot be encoded. -/
def addOptions (buf : List MssqlArgumentValue) :
    List (Optional X) → Except String (List MssqlArgumentValue)
  | [] => .ok buf
  | x :: rest =>
    match encodeOption W buf x.type x.value with
    | (.ok _, buf) => addOptions buf rest
    | (.error e, _) => .error e

/-- `chrono` and `time` count nanoseconds in 32 bits. -/
structure Crates.Writers.CountsNanoseconds : Prop where
  naive : ∀ time, W.naiveNanosecond time ≤ IntType.u32.max
  time : ∀ time, W.timeNanosecond time ≤ IntType.u32.max

/-- The values that are not read back as their own type if the server returns their parameter: a
`BIT` is not numeric, and the numbers of the decimal crates and UUIDs are bound as texts. -/
def RustType.isUnread (t : RustType) (null : Bool) : Bool :=
  match t with
  | .bool => true
  | .decimal | .bigDecimal | .uuid => !null
  | _ => false

/-- The parameter a value is bound as. -/
structure BoundAs (x : Optional X) (parameter : InputParameter) : Prop where
  /-- What the server reads is what was encoded. -/
  argument : ∀ buf, (encodeOption W buf x.type x.value).2 = buf ++ [parameter.argument types]
  null : parameter.box.value = none ↔ x.value = none
  /-- A NULL has the data type of its Rust type. -/
  nullType : x.value = none → parameter.dataType types = x.type.typeInfo.dataType
  /-- Only an ODBC timestamp can have more digits than it is bound with. -/
  precise : x.type ≠ .timestamp → parameter.Precise
  readable : x.type.compatible ⟨parameter.dataType types⟩ = !x.type.isUnread x.value.isNone

theorem precise_of_not_timestamp {parameter : InputParameter}
    (h : ∀ timestamp, parameter.box ≠ .timestamp (some timestamp)) : parameter.Precise :=
  fun timestamp _ hbox _ ↦ absurd hbox (h timestamp)

theorem timestampOf_precise (date : Date) (time : Time) {nanosecond : ℕ}
    (h : nanosecond ≤ IntType.u32.max) :
    (valueToParameter (.timestamp (timestampOf date time nanosecond))).Precise := by
  intro timestamp precision hbox hdeclared
  cases hbox
  cases hdeclared
  have hle : ((nanosecond / 1000 * 1000 : ℕ) : ℤ) ≤ IntType.u32.max :=
    (Int.ofNat_le.2 (Nat.div_mul_le_self nanosecond 1000)).trans h
  have hval : (timestampOf date time nanosecond).fraction.val = (nanosecond / 1000 * 1000 : ℕ) :=
    IntType.wrap_val ⟨Int.natCast_nonneg _, hle⟩
  rw [hval]
  exact Int.natCast_dvd_natCast.2 (Nat.dvd_mul_left 1000 _)

/-- A NULL is bound as what it is. -/
theorem boundAs_null (t : RustType) :
    BoundAs types W ⟨t, none⟩ (valueToParameter (.null t.typeInfo)) where
  argument buf := by
    rw [argument_valueToParameter]
    rfl
  null := iff_of_true (nullParameter_value _) rfl
  nullType _ := nullParameter_dataType types _
  precise _ := precise_of_not_timestamp fun timestamp hbox ↦ by
    have hvalue := nullParameter_value t.typeInfo.dataType
    rw [show (nullParameter t.typeInfo.dataType).box = _ from hbox] at hvalue
    cases hvalue
  readable := by
    rw [valueToParameter, nullParameter_dataType]
    cases t with
    | int ty => cases ty <;> rfl
    | _ => rfl

/-- What is on the buffer already makes no difference. -/
theorem encode_append (buf : List MssqlArgumentValue) (t : RustType) (x : t.Carrier X) :
    encode W buf t x = ((encode W [] t x).1, buf ++ (encode W [] t x).2) := by
  have htry (explain : String → String) (value : Except String MssqlArgumentValue) :
      tryPush buf explain value =
        ((tryPush [] explain value).1, buf ++ (tryPush [] explain value).2) := by
    cases value with
    | ok value => rfl
    | error e => exact Prod.ext rfl (List.append_nil buf).symm
  cases t with
  | int ty =>
    cases ty with
    | u64 =>
      show encodeU64 buf x = ((encodeU64 [] x).1, buf ++ (encodeU64 [] x).2)
      simp only [encodeU64]
      split
      · rfl
      · exact Prod.ext rfl (List.append_nil buf).symm
    | _ => rfl
  | offsetDateTime | json | geometry => exact htry _ _
  | _ => rfl

/-- A value that could be made, or none. -/
theorem of_tryPush {explain : String → String} {β : Type} {r : Except String β}
    {f : β → MssqlArgumentValue} {isNull : IsNull} {v : MssqlArgumentValue}
    (h : tryPush [] explain (r.map f) = (.ok isNull, [v])) : ∃ b, v = f b := by
  cases r with
  | ok b =>
    cases h
    exact ⟨b, rfl⟩
  | error e => cases h

theorem IntType.of_encode {ty : IntType} {x : ty.Value} {isNull : IsNull} {v : MssqlArgumentValue}
    (h : ty.encode [] x = (.ok isNull, [v])) : ∃ n, v = .int n := by
  cases ty with
  | u64 =>
    have h : encodeU64 [] x = (.ok isNull, [v]) := h
    rw [encodeU64] at h
    split at h
    · cases h
      exact ⟨_, rfl⟩
    · cases h
  | _ =>
    cases h
    exact ⟨_, rfl⟩

section Some

variable {t : RustType} {x : t.Carrier X} {isNull : IsNull} {v : MssqlArgumentValue}

theorem readable_of_encode (h : encode W [] t x = (.ok isNull, [v])) :
    t.compatible ⟨(valueToParameter v).dataType types⟩ = !t.isUnread false ∧
      (valueToParameter v).box.value ≠ none := by
  cases t with
  | int ty =>
    obtain ⟨n, rfl⟩ := IntType.of_encode h
    exact ⟨IntType.compatible_eq _ ty, by rintro ⟨⟩⟩
  | str | string | dateTimeUtc | dateTimeFixed | decimal | bigDecimal | uuid =>
    cases h
    exact ⟨(compatible_characters _ (types.wide_character _)).trans rfl, by rintro ⟨⟩⟩
  | offsetDateTime | json =>
    obtain ⟨text, rfl⟩ := of_tryPush h
    exact ⟨(compatible_characters _ (types.wide_character _)).trans rfl, by rintro ⟨⟩⟩
  | geometry =>
    obtain ⟨bytes, rfl⟩ := of_tryPush h
    exact ⟨(compatible_binaries _ (types.binary_binary _)).trans rfl, by rintro ⟨⟩⟩
  | byteSlice | bytes =>
    cases h
    exact ⟨(compatible_binaries _ (types.binary_binary _)).trans rfl, by rintro ⟨⟩⟩
  | _ =>
    cases h
    exact ⟨rfl, by rintro ⟨⟩⟩

theorem precise_of_encode (hnanos : W.CountsNanoseconds) (ht : t ≠ .timestamp)
    (h : encode W [] t x = (.ok isNull, [v])) : (valueToParameter v).Precise := by
  cases t with
  | timestamp => exact absurd rfl ht
  | naiveDateTime | dateTimeLocal =>
    cases h
    exact timestampOf_precise _ _ (hnanos.naive _)
  | primitiveDateTime =>
    cases h
    exact timestampOf_precise _ _ (hnanos.time _)
  | int ty =>
    obtain ⟨n, rfl⟩ := IntType.of_encode h
    exact precise_of_not_timestamp (by rintro _ ⟨⟩)
  | offsetDateTime | json | geometry =>
    obtain ⟨text, rfl⟩ := of_tryPush h
    exact precise_of_not_timestamp (by rintro _ ⟨⟩)
  | _ =>
    cases h
    exact precise_of_not_timestamp (by rintro _ ⟨⟩)

theorem boundAs_some (hnanos : W.CountsNanoseconds) (h : encode W [] t x = (.ok isNull, [v])) :
    BoundAs types W ⟨t, some x⟩ (valueToParameter v) where
  argument buf := by
    show (encode W buf t x).2 = _
    rw [encode_append, h, argument_valueToParameter]
  null := iff_of_false (readable_of_encode types W h).2 (by rintro ⟨⟩)
  nullType hnone := absurd hnone (by rintro ⟨⟩)
  precise ht := precise_of_encode W hnanos ht h
  readable := (readable_of_encode types W h).1

end Some

/-- One value: what it is encoded as is bound faithfully. -/
theorem exists_boundAs (hnanos : W.CountsNanoseconds) {x : Optional X}
    {buf buf' : List MssqlArgumentValue} {isNull : IsNull}
    (h : encodeOption W buf x.type x.value = (.ok isNull, buf')) :
    ∃ v, buf' = buf ++ [v] ∧ BoundAs types W x (valueToParameter v) := by
  obtain ⟨t, _ | x⟩ := x
  · cases h
    exact ⟨_, rfl, boundAs_null types W t⟩
  · have h : encode W buf t x = (.ok isNull, buf') := h
    rw [encode_append] at h
    obtain ⟨v, hv⟩ | ⟨e, he⟩ := encode_cases W [] t x
    · have hv : encode W [] t x = (.ok .no, [v]) := hv
      rw [hv] at h
      cases h
      exact ⟨v, rfl, boundAs_some types W hnanos hv⟩
    · rw [he] at h
      cases h

theorem addOptions_bound (hnanos : W.CountsNanoseconds) {xs : List (Optional X)}
    {buf args : List MssqlArgumentValue} (h : addOptions W buf xs = .ok args) :
    ∃ values, args = buf ++ values ∧
      List.Forall₂ (fun x v ↦ BoundAs types W x (valueToParameter v)) xs values := by
  induction xs generalizing buf with
  | nil =>
    cases h
    exact ⟨[], (List.append_nil _).symm, .nil⟩
  | cons x xs ih =>
    rw [addOptions] at h
    split at h
    · rename_i isNull buf' hencode
      obtain ⟨v, rfl, hbound⟩ := exists_boundAs types W hnanos hencode
      obtain ⟨values, rfl, hvalues⟩ := ih h
      exact ⟨v :: values, List.append_assoc buf [v] values, .cons hbound hvalues⟩
    · cases h

/-- **Parameters are faithful.**  Values of any supported types, NULLs among them, are added to the
arguments of a statement and put into boxes.  Then there is one box for each value, in their order,
from which the server reads exactly what was encoded; a NULL has the data type of its Rust type, and
nothing else is a NULL; the digits of a timestamp that `chrono` or `time` has made fit its data
type; and if the server returns the parameter in a column of its data type, it is accepted as a
value of its Rust type, unless it is a `bool`, or a decimal or a UUID that is not NULL. -/
theorem parameters_faithful (hnanos : W.CountsNanoseconds) {xs : List (Optional X)}
    {args : List MssqlArgumentValue} (h : addOptions W [] xs = .ok args) :
    List.Forall₂ (BoundAs types W) xs (MssqlParameterCollection.fromValues args) := by
  obtain ⟨values, rfl, hbound⟩ := addOptions_bound types W hnanos h
  exact List.forall₂_map_right_iff.2 hbound

theorem Crates.civil_countsNanoseconds : Crates.civilWriters.CountsNanoseconds where
  naive time := (Int.ofNat_lt.2 time.nano_lt).le.trans (by decide)
  time time := (Int.ofNat_lt.2 time.nano_lt).le.trans (by decide)

/-- The types with a known length. -/
def LengthTypes.known : LengthTypes where
  wide length := .wVarchar (some length)
  narrow length := .varchar (some length)
  binary length := .varbinary (some length)
  wide_character _ := rfl
  binary_binary _ := rfl

/-- The last nanosecond of a day, the number seven, and no UUID. -/
theorem parameters_faithful_newYear :
    let newYearsDay := (newYear 2024, beforeMidnight)
    let seven := IntType.wrap .u8 7
    List.Forall₂ (BoundAs .known Crates.civilWriters)
      [⟨.naiveDateTime, some newYearsDay⟩, ⟨.int .u8, some seven⟩, ⟨.uuid, none⟩]
      (MssqlParameterCollection.fromValues
        [.timestamp (timestampFromNaive Crates.civilWriters newYearsDay),
          .int (seven.widen IntType.u8_within_i64), .null .guid]) :=
  parameters_faithful _ _ Crates.civil_countsNanoseconds rfl

end MssqlOdbc
