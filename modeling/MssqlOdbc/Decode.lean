import MssqlOdbc.Types
import MssqlOdbc.Value

/-!
# Decoding

`decode` turns a value into one of the Rust types.  The types of other crates, and the functions
that build them out of numbers, fields or text, are gathered in `Crates`.

Whatever the type, decoding looks at a value through its `readings` alone, except that an error
names the kind it found (`decode_outcome`).
-/

set_option autoImplicit false

namespace MssqlOdbc

/-! ## Other crates -/

/-- What is used of `chrono`.  `Utc`, `Fixed` and `Local` are its date-times with an offset. -/
structure Chrono where
  NaiveDate : Type
  NaiveTime : Type
  Utc : Type
  Fixed : Type
  Local : Type
  fromYmdOpt : ℤ → ℕ → ℕ → Option NaiveDate
  fromHmsOpt : ℕ → ℕ → ℕ → Option NaiveTime
  fromHmsNanoOpt : ℕ → ℕ → ℕ → ℕ → Option NaiveTime
  parseDate : String → Option NaiveDate
  parseTime : String → Except String NaiveTime
  parseDateTime : String → Except String (NaiveDate × NaiveTime)
  parseDateTimeAs : (format text : String) → Option (NaiveDate × NaiveTime)
  parseUtc : String → Option Utc
  parseFixed : String → Option Fixed
  parseFixedAs : (format text : String) → Option Fixed
  fromNaiveUtc : NaiveDate × NaiveTime → Utc
  toUtc : Fixed → Utc
  fixedOffset : Utc → Fixed
  withTimezoneLocal : Utc → Local

/-- What is used of `time`. -/
structure TimeCrate where
  Month : Type
  Date : Type
  Time : Type
  OffsetDateTime : Type
  monthTryFrom : ℕ → Option Month
  fromCalendarDate : ℤ → Month → ℕ → Option Date
  fromHms : ℕ → ℕ → ℕ → Option Time
  fromHmsNano : ℕ → ℕ → ℕ → ℕ → Option Time
  parseIsoDate : String → Option Date
  parseIsoTime : String → Option Time
  parseTimeAs : (format text : String) → Except String Time
  parsePrimitiveAs : (format text : String) → Except String (Date × Time)
  parseIsoPrimitive : String → Option (Date × Time)
  parseRfc3339 : String → Option OffsetDateTime
  parseOffsetAs : (format text : String) → Option OffsetDateTime
  parseIsoOffset : String → Option OffsetDateTime
  assumeUtc : Date × Time → OffsetDateTime

/-- The types of the other crates, each with the functions that make a value of it. -/
structure Crates where
  chrono : Chrono
  time : TimeCrate
  Decimal : Type
  decimalFromStr : String → Except String Decimal
  decimalFromI64 : I64 → Decimal
  decimalTryFromF64 : Float → Option Decimal
  BigDecimal : Type
  bigDecimalFromStr : String → Except String BigDecimal
  bigDecimalFromI64 : I64 → BigDecimal
  bigDecimalTryFromF64 : Float → Except String BigDecimal
  /-- The type that is read from JSON, and the functions of `serde_json`. -/
  Json : Type
  jsonFromStr : String → Except String Json
  jsonFromSlice : List UInt8 → Except String Json
  jsonFromI64 : I64 → Except String Json
  jsonFromF64 : Float → Except String Json
  Geometry : Type
  readWkb : List UInt8 → Except String Geometry
  parseUuid : String → Option Guid

/-- A calendar date. -/
def isCalendarDate (year : ℤ) (month day : ℕ) : Bool :=
  let leap := decide (year % 4 = 0 ∧ (year % 100 ≠ 0 ∨ year % 400 = 0))
  let days := [31, if leap then 29 else 28, 31, 30, 31, 30, 31, 31, 30, 31, 30, 31]
  decide (1 ≤ month ∧ month ≤ 12 ∧ 1 ≤ day ∧ day ≤ days.getD (month - 1) 0)

/-- A time of day, to the nanosecond. -/
def isTimeOfDay (hour minute second nano : ℕ) : Bool :=
  decide (hour < 24 ∧ minute < 60 ∧ second < 60 ∧ nano < 1000000000)

/-- Crates whose dates and times are their fields and whose numbers are integers.  Each of the
parsers knows a single text. -/
def Crates.sample : Crates :=
  let date (year : ℤ) (month day : ℕ) : Option (ℤ × ℕ × ℕ) :=
    if isCalendarDate year month day then some (year, month, day) else none
  let time (hour minute second nano : ℕ) : Option (ℕ × ℕ × ℕ × ℕ) :=
    if isTimeOfDay hour minute second nano then some (hour, minute, second, nano) else none
  let parse {α : Type} (known : String) (x : α) (text : String) : Except String α :=
    if text = known then .ok x else .error "invalid"
  let number : String → Except String ℤ := parse "0" 0
  let zero (x : Float) : Option ℤ := if x == 0 then some 0 else none
  { chrono := {
      NaiveDate := ℤ × ℕ × ℕ
      NaiveTime := ℕ × ℕ × ℕ × ℕ
      Utc := (ℤ × ℕ × ℕ) × (ℕ × ℕ × ℕ × ℕ)
      Fixed := (ℤ × ℕ × ℕ) × (ℕ × ℕ × ℕ × ℕ)
      Local := (ℤ × ℕ × ℕ) × (ℕ × ℕ × ℕ × ℕ)
      fromYmdOpt := date
      fromHmsOpt := fun hour minute second ↦ time hour minute second 0
      fromHmsNanoOpt := time
      parseDate := fun text ↦ (parse "2000-01-01" (2000, 1, 1) text).toOption
      parseTime := parse "00:00:00" (0, 0, 0, 0)
      parseDateTime := parse "2000-01-01T00:00:00" ((2000, 1, 1), (0, 0, 0, 0))
      parseDateTimeAs := fun _ text ↦
        (parse "2000-01-01 00:00:00" ((2000, 1, 1), (0, 0, 0, 0)) text).toOption
      parseUtc := fun _ ↦ none
      parseFixed := fun _ ↦ none
      parseFixedAs := fun _ _ ↦ none
      fromNaiveUtc := id
      toUtc := id
      fixedOffset := id
      withTimezoneLocal := id }
    time := {
      Month := ℕ
      Date := ℤ × ℕ × ℕ
      Time := ℕ × ℕ × ℕ × ℕ
      OffsetDateTime := (ℤ × ℕ × ℕ) × (ℕ × ℕ × ℕ × ℕ)
      monthTryFrom := fun month ↦ if 1 ≤ month ∧ month ≤ 12 then some month else none
      fromCalendarDate := date
      fromHms := fun hour minute second ↦ time hour minute second 0
      fromHmsNano := time
      parseIsoDate := fun text ↦ (parse "2000-01-01" (2000, 1, 1) text).toOption
      parseIsoTime := fun _ ↦ none
      parseTimeAs := fun _ ↦ parse "00:00:00" (0, 0, 0, 0)
      parsePrimitiveAs := fun _ ↦ parse "2000-01-01 00:00:00" ((2000, 1, 1), (0, 0, 0, 0))
      parseIsoPrimitive := fun _ ↦ none
      parseRfc3339 := fun _ ↦ none
      parseOffsetAs := fun _ _ ↦ none
      parseIsoOffset := fun _ ↦ none
      assumeUtc := id }
    Decimal := ℤ
    decimalFromStr := number
    decimalFromI64 := Subtype.val
    decimalTryFromF64 := zero
    BigDecimal := ℤ
    bigDecimalFromStr := number
    bigDecimalFromI64 := Subtype.val
    bigDecimalTryFromF64 := fun x ↦ (zero x).elim (.error "invalid") .ok
    Json := ℤ
    jsonFromStr := number
    jsonFromSlice := fun bytes ↦ if bytes = [48] then .ok 0 else .error "invalid"
    jsonFromI64 := fun n ↦ .ok n.val
    jsonFromF64 := fun x ↦ (zero x).elim (.error "invalid") .ok
    Geometry := List UInt8
    readWkb := fun bytes ↦ if bytes = [1] then .ok bytes else .error "invalid"
    parseUuid := fun _ ↦ none }

/-- The values of a Rust type.  A UUID is its sixteen bytes, in the order they are written in. -/
def RustType.Carrier (X : Crates) : RustType → Type
  | .int ty => ty.Value
  | .bool => Bool
  | .f32 => Float32
  | .f64 => Float
  | .str | .string => String
  | .byteSlice | .bytes => List UInt8
  | .date => Date
  | .time => Time
  | .timestamp => Timestamp
  | .naiveDate => X.chrono.NaiveDate
  | .naiveTime => X.chrono.NaiveTime
  | .naiveDateTime => X.chrono.NaiveDate × X.chrono.NaiveTime
  | .dateTimeUtc => X.chrono.Utc
  | .dateTimeFixed => X.chrono.Fixed
  | .dateTimeLocal => X.chrono.Local
  | .timeDate => X.time.Date
  | .timeTime => X.time.Time
  | .primitiveDateTime => X.time.Date × X.time.Time
  | .offsetDateTime => X.time.OffsetDateTime
  | .decimal => X.Decimal
  | .bigDecimal => X.BigDecimal
  | .uuid => Guid
  | .json => X.Json
  | .geometry => X.Geometry

/-- Why a value cannot be decoded.  `kind` stands for the message "ODBC cannot decode value kind
… as …", `float` for the one that quotes a floating point number that is not a date, and `utf8` for
the error of the standard library. -/
inductive DecodeError where
  | kind (value : MssqlValueKind) (target reason : String)
  | message (text : String)
  | float (target : String) (value : Float)
  | utf8 (bytes : List UInt8)

def orMessage {α : Type} (text : String) : Option α → Except DecodeError α
  | some x => .ok x
  | none => .error (.message text)

/-- An error of another crate, passed on. -/
def orPassed {α : Type} : Except String α → Except DecodeError α
  | .ok x => .ok x
  | .error text => .error (.message text)

/-- An error of another crate, in a message of the driver's own. -/
def orExplained {α : Type} (explain : String → String) : Except String α → Except DecodeError α
  | .ok x => .ok x
  | .error text => .error (.message (explain text))

section Decoders

variable (X : Crates) (value : MssqlValueRef)

/-! ## Scalars -/

def decodeError {α : Type} (target reason : String) : Except DecodeError α :=
  .error (.kind value.value.kind target reason)

def decodeInteger (ty : IntType) : Except DecodeError ty.Value :=
  match value.asI64 with
  | none => decodeError value ty.name "source value is not an integer"
  | some integer =>
    match ty.tryFrom integer.val with
    | some x => .ok x
    | none =>
      decodeError value ty.name s!"integer value {integer.val} is outside the target range"

def decodeBool : Except DecodeError Bool :=
  match value.asBool with
  | some b => .ok b
  | none => decodeError value "bool" "source value is not boolean-compatible"

def decodeF32 : Except DecodeError Float32 :=
  match value.asF64 with
  | some x => .ok x.toFloat32
  | none => decodeError value "f32" "source value is not numeric"

def decodeF64 : Except DecodeError Float :=
  match value.asF64 with
  | some x => .ok x
  | none => decodeError value "f64" "source value is not numeric"

def decodeString : Except DecodeError String :=
  match value.asStr with
  | some text => .ok text
  | none =>
    match value.asBytes with
    | some bytes =>
      match Utf8.ofUtf8? bytes with
      | some text => .ok text
      | none => .error (.utf8 bytes)
    | none => decodeError value "String" "source value is neither text nor UTF-8 bytes"

def decodeStr : Except DecodeError String :=
  match value.asStr with
  | some text => .ok text
  | none => decodeError value "&str" "source value is not text"

/-- For `Vec<u8>` and `&[u8]`. -/
def decodeBytes (target : String) : Except DecodeError (List UInt8) :=
  match value.asBytes with
  | some bytes => .ok bytes
  | none => decodeError value target "source value is not binary"

/-- For the ODBC structures, which are read from their own kind only. -/
def decodeRaw {α : Type} (target reason : String) (raw : Option α) : Except DecodeError α :=
  match raw with
  | some x => .ok x
  | none => decodeError value target reason

/-! ## Dates, from `chrono` and from `time` -/

/-- The parts of an integer `YYYYMMDD`. -/
def yyyymmdd (n : ℤ) : Option (ℤ × ℕ × ℕ) :=
  if 19000101 ≤ n ∧ n ≤ 30001231 then
    some (n / 10000, (n % 10000 / 100).toNat, (n % 100).toNat)
  else none

/-- The parts of a text of eight digits. -/
def yyyymmddText (text : String) : Option (ℤ × ℕ × ℕ) :=
  let digits := text.toList
  if text.utf8ByteSize = 8 ∧ digits.all Char.isDigit then do
    let year ← parseDigits (digits.take 4)
    let month ← parseDigits ((digits.drop 4).take 2)
    let day ← parseDigits (digits.drop 6)
    return (year, month, day)
  else none

/-- A date: from its own kind, from text in one of two forms, or from a number `YYYYMMDD`. -/
def decodeDate {α : Type} (target : String) (ofRaw : Date → Except DecodeError α)
    (ofParts : ℤ × ℕ × ℕ → Option α) (parseIso : String → Option α) : Except DecodeError α :=
  let ofText := value.trimmedText.bind fun text ↦
    match (yyyymmddText text).bind ofParts with
    | some date => some date
    | none => parseIso text
  match value.rawDate, ofText, value.asI64, value.asF64 with
  | some date, _, _, _ => ofRaw date
  | none, some date, _, _ => .ok date
  | none, none, some integer, _ =>
    orMessage (s!"ODBC: cannot decode {target} from integer '{integer.val}': " ++
      "not in YYYYMMDD range") ((yyyymmdd integer.val).bind ofParts)
  | none, none, none, some float =>
    match (yyyymmdd (floatAsI64 float)).bind ofParts with
    | some date => .ok date
    | none => .error (.float target float)
  | none, none, none, none => .error (.message s!"ODBC: cannot decode {target}")

def decodeNaiveDate : Except DecodeError X.chrono.NaiveDate :=
  decodeDate value "NaiveDate"
    (fun date ↦ orMessage "ODBC: invalid date values"
      (X.chrono.fromYmdOpt date.year.val date.month.val.toNat date.day.val.toNat))
    (fun (year, month, day) ↦ X.chrono.fromYmdOpt year month day) X.chrono.parseDate

/-- `as u8`. -/
def asU8 (v : U16) : ℕ := v.val.toNat % 256

def decodeTimeDate : Except DecodeError X.time.Date :=
  decodeDate value "time::Date"
    (fun date ↦ do
      let month ← orMessage "ODBC: invalid month value" (X.time.monthTryFrom (asU8 date.month))
      orMessage "ODBC: invalid date values"
        (X.time.fromCalendarDate date.year.val month (asU8 date.day)))
    (fun (year, month, day) ↦ do
      let month ← X.time.monthTryFrom month
      X.time.fromCalendarDate year month day) X.time.parseIsoDate

/-! ## Times and date-times from `chrono` -/

def decodeNaiveTime : Except DecodeError X.chrono.NaiveTime :=
  match value.rawTime, value.trimmedText with
  | some time, _ => orMessage "ODBC: invalid time values"
    (X.chrono.fromHmsOpt time.hour.val.toNat time.minute.val.toNat time.second.val.toNat)
  | none, none => .error (.message "ODBC: cannot decode NaiveTime")
  | none, some text =>
    orExplained (fun error ↦ s!"ODBC: cannot decode NaiveTime from '{text}': {error}")
      (X.chrono.parseTime text)

def naiveFromTimestamp (timestamp : Timestamp) :
    Except DecodeError (X.chrono.NaiveDate × X.chrono.NaiveTime) := do
  let date ← orMessage "ODBC: invalid date values in timestamp"
    (X.chrono.fromYmdOpt timestamp.year.val timestamp.month.val.toNat timestamp.day.val.toNat)
  let time ← orMessage "ODBC: invalid time values in timestamp"
    (X.chrono.fromHmsNanoOpt timestamp.hour.val.toNat timestamp.minute.val.toNat
      timestamp.second.val.toNat timestamp.fraction.val.toNat)
  return (date, time)

/-- `str::rsplit_once` at a character. -/
def rsplitOnce (separator : Char) (text : List Char) : Option (List Char × List Char) :=
  (splitOnce separator text.reverse).map fun (last, first) ↦ (first.reverse, last.reverse)

/-- The part of a text before a time zone that is separated by a space. -/
def beforeOffset (text : String) : Option String := do
  let (datetimePart, offset) ← rsplitOnce ' ' text.toList
  if offset.head? = some '+' ∨ offset.head? = some '-' ∨ offset = ['Z'] then
    some (String.ofList datetimePart)
  else none

def decodeNaiveDateTime : Except DecodeError (X.chrono.NaiveDate × X.chrono.NaiveTime) :=
  match value.rawTimestamp, value.trimmedText with
  | some timestamp, _ => naiveFromTimestamp X timestamp
  | none, none => .error (.message "ODBC: cannot decode NaiveDateTime")
  | none, some text =>
    let parse (text : String) : Option (X.chrono.NaiveDate × X.chrono.NaiveTime) :=
      X.chrono.parseDateTimeAs "%Y-%m-%d %H:%M:%S%.f" text <|>
        X.chrono.parseDateTimeAs "%Y-%m-%d %H:%M:%S" text
    match (beforeOffset text).bind parse <|> parse text with
    | some datetime => .ok datetime
    | none => orExplained (fun error ↦ s!"ODBC: cannot decode NaiveDateTime from '{text}': {error}")
      (X.chrono.parseDateTime text)

/-- A text with an offset, in the layouts of the server. -/
def parseOffsetText (text : String) : Option X.chrono.Fixed :=
  X.chrono.parseFixedAs "%Y-%m-%d %H:%M:%S%.f %#z" text <|>
    X.chrono.parseFixedAs "%Y-%m-%d %H:%M:%S %#z" text

/-- A `chrono` date-time with an offset; one without is taken as UTC. -/
def decodeDateTime {α : Type} (target : String) (parse : String → Option α)
    (ofFixed : X.chrono.Fixed → α) (ofUtc : X.chrono.Utc → α) : Except DecodeError α :=
  match value.rawTimestamp, value.trimmedText with
  | some timestamp, _ =>
    (naiveFromTimestamp X timestamp).map fun datetime ↦ ofUtc (X.chrono.fromNaiveUtc datetime)
  | none, none => .error (.message s!"ODBC: cannot decode {target}")
  | none, some text =>
    match parse text <|> (parseOffsetText X text).map ofFixed with
    | some datetime => .ok datetime
    | none =>
      match decodeNaiveDateTime X value with
      | .ok datetime => .ok (ofUtc (X.chrono.fromNaiveUtc datetime))
      | .error _ => .error (.message s!"ODBC: cannot decode {target} from '{text}'")

def decodeDateTimeUtc : Except DecodeError X.chrono.Utc :=
  decodeDateTime X value "DateTime<Utc>" X.chrono.parseUtc X.chrono.toUtc id

def decodeDateTimeFixed : Except DecodeError X.chrono.Fixed :=
  decodeDateTime X value "DateTime<FixedOffset>" X.chrono.parseFixed id X.chrono.fixedOffset

def decodeDateTimeLocal : Except DecodeError X.chrono.Local :=
  match value.rawTimestamp with
  | some timestamp => (naiveFromTimestamp X timestamp).map fun datetime ↦
    X.chrono.withTimezoneLocal (X.chrono.fromNaiveUtc datetime)
  | none => (decodeDateTimeUtc X value).map X.chrono.withTimezoneLocal

/-! ## Times and date-times from `time` -/

def decodeTimeTime : Except DecodeError X.time.Time :=
  match value.rawTime, value.trimmedText with
  | some time, _ => orMessage "ODBC: invalid time values"
    (X.time.fromHms (asU8 time.hour) (asU8 time.minute) (asU8 time.second))
  | none, none => .error (.message "ODBC: cannot decode time::Time")
  | none, some text =>
    match X.time.parseIsoTime text with
    | some time => .ok time
    | none =>
      orExplained (fun error ↦ s!"ODBC: cannot decode time::Time from '{text}': {error}")
        (X.time.parseTimeAs "[hour]:[minute]:[second]" text)

def primitiveFromTimestamp (timestamp : Timestamp) :
    Except DecodeError (X.time.Date × X.time.Time) := do
  let month ← orMessage s!"ODBC: invalid month value in timestamp: {timestamp.month.val}"
    (X.time.monthTryFrom (asU8 timestamp.month))
  let date ← orMessage "ODBC: invalid date values in timestamp"
    (X.time.fromCalendarDate timestamp.year.val month (asU8 timestamp.day))
  let time ← orMessage "ODBC: invalid time values in timestamp"
    (X.time.fromHmsNano (asU8 timestamp.hour) (asU8 timestamp.minute) (asU8 timestamp.second)
      timestamp.fraction.val.toNat)
  return (date, time)

def parseSqlDatetimeText (text : String) : Except DecodeError (X.time.Date × X.time.Time) :=
  match X.time.parsePrimitiveAs "[year]-[month]-[day] [hour]:[minute]:[second].[subsecond]"
    text with
  | .ok datetime => .ok datetime
  | .error _ =>
    orExplained (fun error ↦ s!"ODBC: cannot parse datetime '{text}': {error}")
      (X.time.parsePrimitiveAs "[year]-[month]-[day] [hour]:[minute]:[second]" text)

def decodePrimitiveDateTime : Except DecodeError (X.time.Date × X.time.Time) :=
  match value.rawTimestamp, value.trimmedText with
  | some timestamp, _ => primitiveFromTimestamp X timestamp
  | none, none => .error (.message "ODBC: cannot decode PrimitiveDateTime")
  | none, some text =>
    let parse (text : String) := (parseSqlDatetimeText X text).toOption
    orMessage s!"ODBC: cannot decode PrimitiveDateTime from '{text}'"
      ((beforeOffset text).bind parse <|> parse text <|> X.time.parseIsoPrimitive text)

def decodeOffsetDateTime : Except DecodeError X.time.OffsetDateTime :=
  match value.rawTimestamp, value.trimmedText with
  | some timestamp, _ => (primitiveFromTimestamp X timestamp).map X.time.assumeUtc
  | none, none => .error (.message "ODBC: cannot decode OffsetDateTime")
  | none, some text =>
    orMessage s!"ODBC: cannot decode OffsetDateTime from '{text}'"
      (X.time.parseRfc3339 text <|>
        X.time.parseOffsetAs ("[year]-[month]-[day] [hour]:[minute]:[second].[subsecond] " ++
          "[offset_hour sign:mandatory]:[offset_minute]") text <|>
        X.time.parseOffsetAs ("[year]-[month]-[day] [hour]:[minute]:[second] " ++
          "[offset_hour sign:mandatory]:[offset_minute]") text <|>
        X.time.parseIsoOffset text <|>
        (decodePrimitiveDateTime X value).toOption.map X.time.assumeUtc)

/-! ## Numbers, UUIDs, JSON and geometry -/

/-- From text if there is text, else from bytes, else from an integer, else from a floating point
number. -/
def decodeFirst {α : Type} (message : String) (ofStr : String → Except DecodeError α)
    (ofBytes : List UInt8 → Except DecodeError α) (ofI64 : I64 → Except DecodeError α)
    (ofF64 : Float → Except DecodeError α) : Except DecodeError α :=
  match value.asStr, value.asBytes, value.asI64, value.asF64 with
  | some text, _, _, _ => ofStr text
  | none, some bytes, _, _ => ofBytes bytes
  | none, none, some integer, _ => ofI64 integer
  | none, none, none, some float => ofF64 float
  | none, none, none, none => .error (.message message)

/-- `std::str::from_utf8` with `?`. -/
def utf8Text (bytes : List UInt8) : Except DecodeError String :=
  match Utf8.ofUtf8? bytes with
  | some text => .ok text
  | none => .error (.utf8 bytes)

def decodeDecimal : Except DecodeError X.Decimal :=
  decodeFirst value "ODBC: cannot decode Decimal"
    (fun text ↦ orPassed (X.decimalFromStr (normalizeDecimal text)))
    (fun bytes ↦ do orPassed (X.decimalFromStr (normalizeDecimal (← utf8Text bytes))))
    (fun integer ↦ .ok (X.decimalFromI64 integer))
    (fun float ↦ orMessage "ODBC: cannot decode Decimal" (X.decimalTryFromF64 float))

def decodeBigDecimal : Except DecodeError X.BigDecimal :=
  decodeFirst value "ODBC: cannot decode BigDecimal"
    (fun text ↦ orExplained (fun error ↦ s!"bad decimal text: {error}")
      (X.bigDecimalFromStr (trim text)))
    (fun bytes ↦ do
      let text ← utf8Text bytes
      orExplained (fun error ↦ s!"bad decimal bytes: {error}") (X.bigDecimalFromStr (trim text)))
    (fun integer ↦ .ok (X.bigDecimalFromI64 integer))
    (fun float ↦ orPassed (X.bigDecimalTryFromF64 float))

def decodeJson : Except DecodeError X.Json :=
  decodeFirst value "ODBC: cannot decode JSON"
    (fun text ↦ orPassed (X.jsonFromStr (trim text)))
    (fun bytes ↦ orPassed (X.jsonFromSlice bytes))
    (fun integer ↦ orPassed (X.jsonFromI64 integer))
    (fun float ↦ orPassed (X.jsonFromF64 float))

/-- `Uuid::from_slice`: the bytes as they are. -/
def uuidFromSlice (bytes : List UInt8) : Option Guid :=
  if h : bytes.length = 16 then some ⟨bytes.toArray, h⟩ else none

/-- The sixteen bytes of the value, or a text in one of its two readings. -/
def decodeUuid : Except DecodeError Guid :=
  let ofText (text : String) : Option Guid := X.parseUuid (trim text)
  let ofBytes (bytes : List UInt8) : Option Guid :=
    match uuidFromSlice bytes with
    | some uuid => some uuid
    | none => (Utf8.ofUtf8? bytes).bind ofText
  orMessage "ODBC: cannot decode Uuid" (value.asBytes.bind ofBytes <|> value.asStr.bind ofText)

def decodeGeometry : Except DecodeError X.Geometry :=
  match value.asBytes with
  | none => .error (.message "ODBC: cannot decode Geometry: source value is not binary")
  | some bytes =>
    orExplained (fun error ↦ s!"ODBC: failed to decode WKB to Geometry: {error}") (X.readWkb bytes)

/-! ## All types -/

/-- `Decode::decode`. -/
def decode : (t : RustType) → Except DecodeError (t.Carrier X)
  | .int ty => decodeInteger value ty
  | .bool => decodeBool value
  | .f32 => decodeF32 value
  | .f64 => decodeF64 value
  | .str => decodeStr value
  | .string => decodeString value
  | .byteSlice => decodeBytes value "&[u8]"
  | .bytes => decodeBytes value "Vec<u8>"
  | .date => decodeRaw value "Date" "source value is not an ODBC date" value.rawDate
  | .time => decodeRaw value "Time" "source value is not an ODBC time" value.rawTime
  | .timestamp =>
    decodeRaw value "Timestamp" "source value is not an ODBC timestamp" value.rawTimestamp
  | .naiveDate => decodeNaiveDate X value
  | .naiveTime => decodeNaiveTime X value
  | .naiveDateTime => decodeNaiveDateTime X value
  | .dateTimeUtc => decodeDateTimeUtc X value
  | .dateTimeFixed => decodeDateTimeFixed X value
  | .dateTimeLocal => decodeDateTimeLocal X value
  | .timeDate => decodeTimeDate X value
  | .timeTime => decodeTimeTime X value
  | .primitiveDateTime => decodePrimitiveDateTime X value
  | .offsetDateTime => decodeOffsetDateTime X value
  | .decimal => decodeDecimal X value
  | .bigDecimal => decodeBigDecimal X value
  | .uuid => decodeUuid X value
  | .json => decodeJson X value
  | .geometry => decodeGeometry X value

end Decoders

/-- Why a column cannot be read: the type of its value is not compatible, or decoding fails. -/
inductive ReadError where
  | mismatched (target : RustType) (found : MssqlTypeInfo)
  | decode (e : DecodeError)

/-- `Row::try_get` of a value: a NULL is decoded whatever its type. -/
def tryGet (X : Crates) (value : MssqlValue) (t : RustType) : Except ReadError (t.Carrier X) :=
  if value.isNull || t.compatible value.typeInfo then
    match decode X ⟨value⟩ t with
    | .ok x => .ok x
    | .error e => .error (.decode e)
  else .error (.mismatched t value.typeInfo)

/-! ## Decoding succeeds -/

section Success

variable {X : Crates} {value : MssqlValueRef}

theorem decode_int {ty : IntType} {n : I64} {x : ty.Value} (h : value.asI64 = some n)
    (hx : ty.tryFrom n.val = some x) : decode X value (.int ty) = .ok x := by
  rw [decode, decodeInteger, h]
  dsimp only
  rw [hx]
  rfl

theorem decode_bool {b : Bool} (h : value.asBool = some b) : decode X value .bool = .ok b := by
  rw [decode, decodeBool, h]
  rfl

theorem decode_f32 {x : Float} (h : value.asF64 = some x) :
    decode X value .f32 = .ok x.toFloat32 := by
  rw [decode, decodeF32, h]
  rfl

theorem decode_f64 {x : Float} (h : value.asF64 = some x) : decode X value .f64 = .ok x := by
  rw [decode, decodeF64, h]
  rfl

theorem tryGet_ok {value : MssqlValue} {t : RustType} {x : t.Carrier X}
    (hcompat : t.compatible value.typeInfo = true) (hx : decode X ⟨value⟩ t = .ok x) :
    tryGet X value t = .ok x := by
  rw [tryGet, hcompat, Bool.or_true, if_pos rfl, hx]

end Success

/-! ## What decoding depends on -/

section Outcome

variable {X : Crates} {v w : MssqlValueRef}

/-- **Two values with the same readings decode alike**: to the same result, or both not at all. -/
theorem decode_outcome (h : v.readings = w.readings) (t : RustType) :
    (decode X v t).toOption = (decode X w t).toOption := by
  have hI64 : v.asI64 = w.asI64 := congrArg Readings.asI64 h
  have hF64 : v.asF64 = w.asF64 := congrArg Readings.asF64 h
  have hStr : v.asStr = w.asStr := congrArg Readings.asStr h
  have hBytes : v.asBytes = w.asBytes := congrArg Readings.asBytes h
  have hBool : v.asBool = w.asBool := congrArg Readings.asBool h
  have hDate : v.rawDate = w.rawDate := congrArg Readings.rawDate h
  have hTime : v.rawTime = w.rawTime := congrArg Readings.rawTime h
  have hTimestamp : v.rawTimestamp = w.rawTimestamp := congrArg Readings.rawTimestamp h
  have hText : v.trimmedText = w.trimmedText := by
    rw [MssqlValueRef.trimmedText, MssqlValueRef.trimmedText, hStr]
  have hNaive : decodeNaiveDateTime X v = decodeNaiveDateTime X w := by
    rw [decodeNaiveDateTime, decodeNaiveDateTime, hTimestamp, hText]
  have hPrimitive : decodePrimitiveDateTime X v = decodePrimitiveDateTime X w := by
    rw [decodePrimitiveDateTime, decodePrimitiveDateTime, hTimestamp, hText]
  cases t with
  | int ty =>
    rw [decode, decode, decodeInteger, decodeInteger, hI64]
    cases w.asI64 with
    | none => rfl
    | some n => dsimp only; cases ty.tryFrom n.val <;> rfl
  | bool => rw [decode, decode, decodeBool, decodeBool, hBool]; cases w.asBool <;> rfl
  | f32 => rw [decode, decode, decodeF32, decodeF32, hF64]; cases w.asF64 <;> rfl
  | f64 => rw [decode, decode, decodeF64, decodeF64, hF64]; cases w.asF64 <;> rfl
  | str => rw [decode, decode, decodeStr, decodeStr, hStr]; cases w.asStr <;> rfl
  | string =>
    rw [decode, decode, decodeString, decodeString, hStr, hBytes]
    cases w.asStr with
    | some text => rfl
    | none => cases w.asBytes <;> rfl
  | byteSlice => rw [decode, decode, decodeBytes, decodeBytes, hBytes]; cases w.asBytes <;> rfl
  | bytes => rw [decode, decode, decodeBytes, decodeBytes, hBytes]; cases w.asBytes <;> rfl
  | date => rw [decode, decode, hDate]; cases w.rawDate <;> rfl
  | time => rw [decode, decode, hTime]; cases w.rawTime <;> rfl
  | timestamp => rw [decode, decode, hTimestamp]; cases w.rawTimestamp <;> rfl
  | naiveDate =>
    rw [decode, decode, decodeNaiveDate, decodeNaiveDate, decodeDate, decodeDate, hDate, hText,
      hI64, hF64]
  | timeDate =>
    rw [decode, decode, decodeTimeDate, decodeTimeDate, decodeDate, decodeDate, hDate, hText,
      hI64, hF64]
  | naiveTime => rw [decode, decode, decodeNaiveTime, decodeNaiveTime, hTime, hText]
  | timeTime => rw [decode, decode, decodeTimeTime, decodeTimeTime, hTime, hText]
  | naiveDateTime => rw [decode, decode, hNaive]
  | dateTimeUtc =>
    rw [decode, decode, decodeDateTimeUtc, decodeDateTimeUtc, decodeDateTime, decodeDateTime,
      hTimestamp, hText, hNaive]
  | dateTimeFixed =>
    rw [decode, decode, decodeDateTimeFixed, decodeDateTimeFixed, decodeDateTime, decodeDateTime,
      hTimestamp, hText, hNaive]
  | dateTimeLocal =>
    rw [decode, decode, decodeDateTimeLocal, decodeDateTimeLocal, decodeDateTimeUtc,
      decodeDateTimeUtc, decodeDateTime, decodeDateTime, hTimestamp, hText, hNaive]
  | primitiveDateTime => rw [decode, decode, hPrimitive]
  | offsetDateTime =>
    rw [decode, decode, decodeOffsetDateTime, decodeOffsetDateTime, hTimestamp, hText, hPrimitive]
  | decimal =>
    rw [decode, decode, decodeDecimal, decodeDecimal, decodeFirst, decodeFirst, hStr, hBytes, hI64,
      hF64]
  | bigDecimal =>
    rw [decode, decode, decodeBigDecimal, decodeBigDecimal, decodeFirst, decodeFirst, hStr, hBytes,
      hI64, hF64]
  | json =>
    rw [decode, decode, decodeJson, decodeJson, decodeFirst, decodeFirst, hStr, hBytes, hI64, hF64]
  | uuid => rw [decode, decode, decodeUuid, decodeUuid, hBytes, hStr]
  | geometry => rw [decode, decode, decodeGeometry, decodeGeometry, hBytes]

end Outcome

end MssqlOdbc
