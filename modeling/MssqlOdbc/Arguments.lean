import MssqlOdbc.Decode

/-!
# Arguments

`encode` pushes the value that is bound for a Rust value onto the argument buffer.  It is the other
half of `decode`: what the other crates read off their values is gathered in `Crates.Writers`.

Encoding fails for few values, and a failure pushes nothing (`encode_cases`).
-/

set_option autoImplicit false

namespace MssqlOdbc

/-- The values that can be bound to parameters. -/
inductive MssqlArgumentValue where
  | text (value : String)
  | bytes (value : List UInt8)
  | int (value : I64)
  | bit (value : Bool)
  | float (value : Float)
  | date (value : Date)
  | time (value : Time)
  | timestamp (value : Timestamp)
  /-- A typed NULL. -/
  | null (typeInfo : MssqlTypeInfo)

/-- `sqlx_core::encode::IsNull`. -/
inductive IsNull where
  | yes
  | no
deriving DecidableEq, Repr

/-- What the other crates read off their values. -/
structure Crates.Writers (X : Crates) where
  naiveYmd : X.chrono.NaiveDate → ℤ × ℕ × ℕ
  naiveHms : X.chrono.NaiveTime → ℕ × ℕ × ℕ
  naiveNanosecond : X.chrono.NaiveTime → ℕ
  utcRfc3339 : X.chrono.Utc → String
  fixedRfc3339 : X.chrono.Fixed → String
  naiveLocal : X.chrono.Local → X.chrono.NaiveDate × X.chrono.NaiveTime
  timeYmd : X.time.Date → ℤ × ℕ × ℕ
  timeHms : X.time.Time → ℕ × ℕ × ℕ
  timeNanosecond : X.time.Time → ℕ
  offsetRfc3339 : X.time.OffsetDateTime → Except String String
  decimalToString : X.Decimal → String
  bigDecimalToString : X.BigDecimal → String
  jsonToString : X.Json → Except String String
  writeWkb : X.Geometry → Except String (List UInt8)

/-- The writers of the crates whose values are their fields. -/
def Crates.sampleWriters : Crates.sample.Writers where
  naiveYmd := id
  naiveHms := fun (hour, minute, second, _) ↦ (hour, minute, second)
  naiveNanosecond := fun (_, _, _, nano) ↦ nano
  utcRfc3339 := fun _ ↦ "2000-01-01T00:00:00+00:00"
  fixedRfc3339 := fun _ ↦ "2000-01-01T00:00:00+00:00"
  naiveLocal := id
  timeYmd := id
  timeHms := fun (hour, minute, second, _) ↦ (hour, minute, second)
  timeNanosecond := fun (_, _, _, nano) ↦ nano
  offsetRfc3339 := fun _ ↦ .ok "2000-01-01T00:00:00Z"
  decimalToString := fun n : ℤ ↦ toString n
  bigDecimalToString := fun n : ℤ ↦ toString n
  jsonToString := fun n : ℤ ↦ .ok (toString n)
  writeWkb := .ok

/-- What is left of a call that encodes: its result and the argument buffer. -/
abbrev Encoding : Type := Except String IsNull × List MssqlArgumentValue

section Encoders

variable {X : Crates} (W : X.Writers) (buf : List MssqlArgumentValue)

def push (value : MssqlArgumentValue) : Encoding := (.ok .no, buf ++ [value])

/-- Pushes a value, if it could be made. -/
def tryPush (explain : String → String) (value : Except String MssqlArgumentValue) : Encoding :=
  match value with
  | .ok value => push buf value
  | .error e => (.error (explain e), buf)

/-! ## The types of the language -/

/-- Integers are bound as 64-bit ones. -/
def encodeInteger (ty : IntType) (x : ty.Value)
    (h : IntType.i64.min ≤ ty.min ∧ ty.max ≤ IntType.i64.max := by decide) : Encoding :=
  push buf (.int (x.widen h))

def encodeU64 (x : IntType.u64.Value) : Encoding :=
  match IntType.i64.tryFrom x.val with
  | some value => push buf (.int value)
  | none =>
    (.error (s!"u64 value {x.val} exceeds BIGINT range (max {IntType.i64.max}) and cannot be " ++
      "encoded for MSSQL; use NUMERIC/DECIMAL via rust_decimal for values above 2^63-1"), buf)

def IntType.encode : (ty : IntType) → ty.Value → Encoding
  | .i8, x => encodeInteger buf .i8 x
  | .i16, x => encodeInteger buf .i16 x IntType.i16_within_i64
  | .i32, x => encodeInteger buf .i32 x IntType.i32_within_i64
  | .i64, x => encodeInteger buf .i64 x
  | .u8, x => encodeInteger buf .u8 x IntType.u8_within_i64
  | .u16, x => encodeInteger buf .u16 x
  | .u32, x => encodeInteger buf .u32 x
  | .u64, x => encodeU64 buf x

/-! ## Dates and times -/

/-- A date is stored with its year in 16 bits. -/
def dateOfYmd : ℤ × ℕ × ℕ → Date
  | (year, month, day) => ⟨IntType.i16.wrap year, IntType.u16.wrap month, IntType.u16.wrap day⟩

def timeOfHms : ℕ × ℕ × ℕ → Time
  | (hour, minute, second) =>
    ⟨IntType.u16.wrap hour, IntType.u16.wrap minute, IntType.u16.wrap second⟩

/-- The fraction is cut to microseconds. -/
def timestampOf (date : Date) (time : Time) (nanosecond : ℕ) : Timestamp :=
  ⟨date.year, date.month, date.day, time.hour, time.minute, time.second,
    IntType.u32.wrap (nanosecond / 1000 * 1000 : ℕ)⟩

def timestampFromNaive (value : X.chrono.NaiveDate × X.chrono.NaiveTime) : Timestamp :=
  timestampOf (dateOfYmd (W.naiveYmd value.1)) (timeOfHms (W.naiveHms value.2))
    (W.naiveNanosecond value.2)

def timestampFromPrimitive (value : X.time.Date × X.time.Time) : Timestamp :=
  timestampOf (dateOfYmd (W.timeYmd value.1)) (timeOfHms (W.timeHms value.2))
    (W.timeNanosecond value.2)

/-! ## All types -/

/-- The hyphenated text of a UUID. -/
def uuidToString (uuid : Guid) : String :=
  String.ofList (hexGroup (uuid.toList.take 4) ++
    '-' :: hexGroup ((uuid.toList.drop 4).take 2) ++
    '-' :: hexGroup ((uuid.toList.drop 6).take 2) ++
    '-' :: hexGroup ((uuid.toList.drop 8).take 2) ++
    '-' :: hexGroup (uuid.toList.drop 10))

/-- `Encode::encode_by_ref`. -/
def encode : (t : RustType) → t.Carrier X → Encoding
  | .int ty, x => ty.encode buf x
  | .bool, b => push buf (.bit b)
  | .f32, x => push buf (.float (Float32.toFloat x))
  | .f64, x => push buf (.float x)
  | .str, text | .string, text => push buf (.text text)
  | .byteSlice, bytes | .bytes, bytes => push buf (.bytes bytes)
  | .date, date => push buf (.date date)
  | .time, time => push buf (.time time)
  | .timestamp, timestamp => push buf (.timestamp timestamp)
  | .naiveDate, date => push buf (.date (dateOfYmd (W.naiveYmd date)))
  | .naiveTime, time => push buf (.time (timeOfHms (W.naiveHms time)))
  | .naiveDateTime, datetime => push buf (.timestamp (timestampFromNaive W datetime))
  | .dateTimeUtc, datetime => push buf (.text (W.utcRfc3339 datetime))
  | .dateTimeFixed, datetime => push buf (.text (W.fixedRfc3339 datetime))
  | .dateTimeLocal, datetime =>
    push buf (.timestamp (timestampFromNaive W (W.naiveLocal datetime)))
  | .timeDate, date => push buf (.date (dateOfYmd (W.timeYmd date)))
  | .timeTime, time => push buf (.time (timeOfHms (W.timeHms time)))
  | .primitiveDateTime, datetime => push buf (.timestamp (timestampFromPrimitive W datetime))
  | .offsetDateTime, datetime =>
    tryPush buf (fun e ↦ s!"ODBC: cannot format OffsetDateTime as Rfc3339: {e}")
      ((W.offsetRfc3339 datetime).map .text)
  | .decimal, x => push buf (.text (W.decimalToString x))
  | .bigDecimal, x => push buf (.text (W.bigDecimalToString x))
  | .uuid, uuid => push buf (.text (uuidToString uuid))
  | .json, json => tryPush buf id ((W.jsonToString json).map .text)
  | .geometry, geometry =>
    tryPush buf (fun e ↦ s!"ODBC: failed to encode Geometry to WKB: {e}")
      ((W.writeWkb geometry).map .bytes)

/-- An absent value is bound as a NULL of its type. -/
def encodeOption (t : RustType) : Option (t.Carrier X) → Encoding
  | some x => encode W buf t x
  | none => (.ok .yes, buf ++ [.null t.typeInfo])

end Encoders

/-! ## Success and failure -/

section Cases

variable {X : Crates} (W : X.Writers) (buf : List MssqlArgumentValue)

theorem encodeInteger_eq {ty : IntType} {x : ty.Value} {n : I64} (h : n.val = x.val)
    (hwide : IntType.i64.min ≤ ty.min ∧ ty.max ≤ IntType.i64.max) :
    encodeInteger buf ty x hwide = push buf (.int n) := by
  have hn : x.widen hwide = n := Subtype.ext h.symm
  rw [encodeInteger, hn]

/-- A number that can be bound is bound as it is. -/
theorem IntType.encode_eq {ty : IntType} {x : ty.Value} {n : I64} (h : n.val = x.val) :
    ty.encode buf x = push buf (.int n) := by
  cases ty with
  | u64 =>
    have htry : IntType.i64.tryFrom x.val = some n := IntType.tryFrom_eq_some.2 h
    show encodeU64 buf x = _
    rw [encodeU64, htry]
  | _ => exact encodeInteger_eq buf h _

/-- A number beyond the 64-bit integers cannot be bound. -/
theorem IntType.encode_tooLarge {ty : IntType} {x : ty.Value} (h : IntType.i64.max < x.val) :
    ∃ e, ty.encode buf x = (.error e, buf) := by
  have hmax : IntType.i64.max < ty.max := Int.lt_of_lt_of_le h x.property.2
  cases ty with
  | u64 =>
    have htry : IntType.i64.tryFrom x.val = none :=
      dif_neg fun hmem ↦ absurd h (Int.not_lt.2 hmem.2)
    show ∃ e, encodeU64 buf x = (.error e, buf)
    rw [encodeU64, htry]
    exact ⟨_, rfl⟩
  | _ => exact absurd hmax (by decide)

theorem tryPush_cases (explain : String → String) (value : Except String MssqlArgumentValue) :
    (∃ v, tryPush buf explain value = (.ok .no, buf ++ [v])) ∨
      ∃ e, tryPush buf explain value = (.error e, buf) := by
  cases value with
  | ok v => exact .inl ⟨v, rfl⟩
  | error e => exact .inr ⟨explain e, rfl⟩

/-- **Encoding pushes one value, or it fails and pushes nothing.** -/
theorem encode_cases (t : RustType) (x : t.Carrier X) :
    (∃ v, encode W buf t x = (.ok .no, buf ++ [v])) ∨
      ∃ e, encode W buf t x = (.error e, buf) := by
  cases t with
  | int ty =>
    have hx : ty.min ≤ x.val ∧ x.val ≤ ty.max := x.property
    have hmin : IntType.i64.min ≤ ty.min := by cases ty <;> decide
    by_cases hmax : x.val ≤ IntType.i64.max
    · have hn : (⟨x.val, Int.le_trans hmin hx.1, hmax⟩ : I64).val = x.val := rfl
      exact .inl ⟨_, IntType.encode_eq buf hn⟩
    · exact .inr (IntType.encode_tooLarge buf (Int.not_le.1 hmax))
  | offsetDateTime | json | geometry => exact tryPush_cases buf _ _
  | _ => exact .inl ⟨_, rfl⟩

end Cases

end MssqlOdbc
