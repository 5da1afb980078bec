import MssqlOdbc.Decode
import MssqlOdbc.Fetch.Delivered

/-!
# Is a compatible column readable?

A Rust type is compatible with the data type of a column, or not; but what is checked when a value
is read is the type the *value* reports, and what the decoder then matches on is the kind of the
value.  The three agree if every cell of a compatible column is fetched as a value that is
compatible again and of a kind the decoder reads for some content.

They do not agree everywhere.  The integer types accept every numeric column, floating point ones
included, and read no floating point value.  A UUID column that is fetched buffered, and a spatial
column in either mode, arrive as text, which `Uuid` and `Geometry` do not accept.
`compatible_sound_iff` says that these are all the exceptions.
-/

set_option autoImplicit false

namespace MssqlOdbc

/-- The decoder reads some value of this kind. -/
def Readable (X : Crates) (t : RustType) (kind : MssqlValueKind) : Prop :=
  ∃ kind' : MssqlValueKind, kind'.ctorIdx = kind.ctorIdx ∧ ∃ x, decode X ⟨⟨kind'⟩⟩ t = .ok x

/-- The other crates accept what is plainly valid: the first day of 2000, midnight, the number zero,
some JSON and some geometry. -/
structure Crates.Accepting (X : Crates) : Prop where
  naiveDate : ∃ d, X.chrono.fromYmdOpt 2000 1 1 = some d
  naiveTime : ∃ t, X.chrono.fromHmsOpt 0 0 0 = some t
  naiveTimeNano : ∃ t, X.chrono.fromHmsNanoOpt 0 0 0 0 = some t
  naiveTimeText : ∃ t, X.chrono.parseTime "00:00:00" = .ok t
  naiveDateTimeText :
    ∃ d, X.chrono.parseDateTimeAs "%Y-%m-%d %H:%M:%S" "2000-01-01 00:00:00" = some d
  timeDate : ∃ m d, X.time.monthTryFrom 1 = some m ∧ X.time.fromCalendarDate 2000 m 1 = some d
  timeTime : ∃ t, X.time.fromHms 0 0 0 = some t
  timeTimeNano : ∃ t, X.time.fromHmsNano 0 0 0 0 = some t
  timeTimeText : ∃ t, X.time.parseTimeAs "[hour]:[minute]:[second]" "00:00:00" = .ok t
  primitiveText : ∃ d, X.time.parsePrimitiveAs "[year]-[month]-[day] [hour]:[minute]:[second]"
    "2000-01-01 00:00:00" = .ok d
  decimalText : ∃ d, X.decimalFromStr "0" = .ok d
  decimalFloat : ∃ d, X.decimalTryFromF64 0 = some d
  bigDecimalText : ∃ d, X.bigDecimalFromStr "0" = .ok d
  bigDecimalFloat : ∃ d, X.bigDecimalTryFromF64 0 = .ok d
  json : ∃ text j, X.jsonFromStr (trim text) = .ok j
  geometry : ∃ bytes g, X.readWkb bytes = .ok g

/-- A value that was fetched for a compatible column and can be read: it is compatible itself, and
if decoding it fails, then because of its content. -/
def Sound (X : Crates) (t : RustType) (value : MssqlValue) : Prop :=
  t.compatible value.typeInfo = true ∧ Readable X t value.kind

def DataType.isFloating : DataType → Bool
  | .real | .float _ | .double => true
  | _ => false

/-- The columns whose values a compatible type does not read after all. -/
def Misread (mode : FetchMode) (dataType : DataType) : RustType → Prop
  | .int _ => dataType.isFloating = true
  | .uuid => mode ≠ .unbuffered
  | .geometry => dataType.isOther (-151) = true
  | _ => False

/-! ## Kinds, by data type -/

/-- The kinds a cell of the data type has in one of the modes. -/
def FetchMode.Fetches (mode : FetchMode) (dataType : DataType) (kind : MssqlValueKind) : Prop :=
  ∃ fits other,
    match mode with
    | .unbuffered => Fetched fits dataType kind other
    | .buffered _ => Fetched fits dataType other kind

theorem fetches_of_holds (mode : FetchMode) {column : MssqlColumn} {cell : Cell}
    (hholds : cell.Holds column.typeInfo.dataType) :
    ∃ kind, mode.fetch column cell = .ok ⟨kind⟩ ∧
      mode.Fetches column.typeInfo.dataType kind := by
  cases mode with
  | unbuffered =>
    obtain ⟨convert, hconvert⟩ := bufferedKind_ok column 0
    obtain ⟨k, hfetch, hfetched⟩ := fetched_of_holds hholds hconvert
    exact ⟨k, unbuffered_fetch hfetch, _, _, hfetched⟩
  | buffered maxColumnSize =>
    obtain ⟨convert, hconvert⟩ := bufferedKind_ok column maxColumnSize
    obtain ⟨k, -, hfetched⟩ := fetched_of_holds hholds hconvert
    exact ⟨convert cell, buffered_fetch hconvert cell, _, _, hfetched⟩

/-- The kinds that carry floating point numbers. -/
def MssqlValueKind.isFloating : MssqlValueKind → Bool
  | .real _ | .double _ => true
  | _ => false

/-! ## What a compatible type reads -/

section Readable

variable {X : Crates} {t : RustType}

/-- Zero is in the range of every integer type. -/
theorem IntType.tryFrom_zero (i : IntType) : ∃ n, i.tryFrom 0 = some n := by
  have hrange : i.min ≤ 0 ∧ 0 ≤ i.max := by cases i <;> decide
  exact ⟨⟨0, hrange⟩, IntType.tryFrom_eq_some.2 rfl⟩

/-- A decoder of dates reads the first day of 2000, if it is a date at all. -/
theorem decodeDate_text {α : Type} {target : String} {ofRaw : Date → Except DecodeError α}
    {ofParts : ℤ × ℕ × ℕ → Option α} {parseIso : String → Option α} {x : α}
    (h : ofParts (2000, 1, 1) = some x) :
    decodeDate ⟨⟨.text "20000101"⟩⟩ target ofRaw ofParts parseIso = .ok x := by
  have htrimmed : (MssqlValueRef.mk ⟨.text "20000101"⟩).trimmedText = some "20000101" := rfl
  have hparts : yyyymmddText "20000101" = some (2000, 1, 1) := rfl
  have hraw : (MssqlValueRef.mk ⟨.text "20000101"⟩).rawDate = none := rfl
  rw [decodeDate, hraw, htrimmed, Option.bind_some, hparts, Option.bind_some, h]

/-- Midnight of that day. -/
theorem trimmedText_midnight : (MssqlValueRef.mk ⟨.text "2000-01-01 00:00:00"⟩).trimmedText =
    some "2000-01-01 00:00:00" := rfl

theorem rawTimestamp_text (text : String) :
    (MssqlValueRef.mk ⟨.text text⟩).rawTimestamp = none := rfl

theorem rawTime_text (text : String) : (MssqlValueRef.mk ⟨.text text⟩).rawTime = none := rfl

theorem decodeNaiveDateTime_text (hX : X.Accepting) :
    ∃ x, decodeNaiveDateTime X ⟨⟨.text "2000-01-01 00:00:00"⟩⟩ = .ok x := by
  obtain ⟨x, hx⟩ := hX.naiveDateTimeText
  have hoffset : beforeOffset "2000-01-01 00:00:00" = none := rfl
  rw [decodeNaiveDateTime, rawTimestamp_text, trimmedText_midnight]
  dsimp only
  rw [hoffset, hx]
  cases X.chrono.parseDateTimeAs "%Y-%m-%d %H:%M:%S%.f" "2000-01-01 00:00:00" with
  | none => exact ⟨_, rfl⟩
  | some y => exact ⟨_, rfl⟩

theorem decodeDateTime_text {α : Type} {target : String} {parse : String → Option α}
    {ofFixed : X.chrono.Fixed → α} {ofUtc : X.chrono.Utc → α} (hX : X.Accepting) :
    ∃ x, decodeDateTime X ⟨⟨.text "2000-01-01 00:00:00"⟩⟩ target parse ofFixed ofUtc = .ok x := by
  obtain ⟨x, hx⟩ := decodeNaiveDateTime_text hX
  rw [decodeDateTime, rawTimestamp_text, trimmedText_midnight, hx]
  dsimp only
  cases parse "2000-01-01 00:00:00" <|>
      (parseOffsetText X "2000-01-01 00:00:00").map ofFixed with
  | none => exact ⟨_, rfl⟩
  | some y => exact ⟨_, rfl⟩

theorem decodePrimitiveDateTime_text (hX : X.Accepting) :
    ∃ x, decodePrimitiveDateTime X ⟨⟨.text "2000-01-01 00:00:00"⟩⟩ = .ok x := by
  obtain ⟨x, hx⟩ := hX.primitiveText
  have hoffset : beforeOffset "2000-01-01 00:00:00" = none := rfl
  rw [decodePrimitiveDateTime, rawTimestamp_text, trimmedText_midnight]
  dsimp only
  rw [hoffset, parseSqlDatetimeText, hx]
  cases X.time.parsePrimitiveAs "[year]-[month]-[day] [hour]:[minute]:[second].[subsecond]"
      "2000-01-01 00:00:00" with
  | error e => exact ⟨_, rfl⟩
  | ok y => exact ⟨_, rfl⟩

theorem orElse_eq_some {α : Type} {rest : Option α} (first : Option α)
    (h : ∃ x, rest = some x) : ∃ x, (first <|> rest) = some x := by
  cases first with
  | none => exact h
  | some x => exact ⟨x, rfl⟩

/-- Every type that takes text reads some text. -/
theorem readable_text (hX : X.Accepting) (h : t.compatible ⟨.wVarchar none⟩ = true)
    (text : String) : Readable X t (.text text) := by
  cases t with
  | str | string => exact ⟨.text "", rfl, _, rfl⟩
  | byteSlice | bytes => exact ⟨.text "", rfl, _, rfl⟩
  | naiveDate =>
    obtain ⟨d, hd⟩ := hX.naiveDate
    exact ⟨.text "20000101", rfl, d, decodeDate_text hd⟩
  | timeDate =>
    obtain ⟨m, d, hm, hd⟩ := hX.timeDate
    refine ⟨.text "20000101", rfl, d, decodeDate_text ?_⟩
    dsimp only
    rw [hm]
    exact hd
  | naiveTime =>
    obtain ⟨t, ht⟩ := hX.naiveTimeText
    refine ⟨.text "00:00:00", rfl, t, ?_⟩
    have htrimmed : (MssqlValueRef.mk ⟨.text "00:00:00"⟩).trimmedText = some "00:00:00" := rfl
    rw [decode, decodeNaiveTime, rawTime_text, htrimmed]
    dsimp only
    rw [ht]
    rfl
  | timeTime =>
    obtain ⟨t, ht⟩ := hX.timeTimeText
    have htrimmed : (MssqlValueRef.mk ⟨.text "00:00:00"⟩).trimmedText = some "00:00:00" := rfl
    refine ⟨.text "00:00:00", rfl, ?_⟩
    rw [decode, decodeTimeTime, rawTime_text, htrimmed]
    dsimp only
    rw [ht]
    cases X.time.parseIsoTime "00:00:00" with
    | none => exact ⟨_, rfl⟩
    | some t => exact ⟨_, rfl⟩
  | naiveDateTime => exact ⟨.text "2000-01-01 00:00:00", rfl, decodeNaiveDateTime_text hX⟩
  | dateTimeUtc | dateTimeFixed =>
    exact ⟨.text "2000-01-01 00:00:00", rfl, decodeDateTime_text hX⟩
  | dateTimeLocal =>
    obtain ⟨x, hx⟩ : ∃ x, decodeDateTimeUtc X ⟨⟨.text "2000-01-01 00:00:00"⟩⟩ = .ok x :=
      decodeDateTime_text hX
    refine ⟨.text "2000-01-01 00:00:00", rfl, X.chrono.withTimezoneLocal x, ?_⟩
    rw [decode, decodeDateTimeLocal, rawTimestamp_text, hx]
    rfl
  | primitiveDateTime =>
    exact ⟨.text "2000-01-01 00:00:00", rfl, decodePrimitiveDateTime_text hX⟩
  | offsetDateTime =>
    obtain ⟨x, hx⟩ := decodePrimitiveDateTime_text hX
    refine ⟨.text "2000-01-01 00:00:00", rfl, ?_⟩
    rw [decode, decodeOffsetDateTime, rawTimestamp_text, trimmedText_midnight, hx]
    dsimp only
    obtain ⟨y, hy⟩ := orElse_eq_some _ <| orElse_eq_some _ <| orElse_eq_some _ <|
      orElse_eq_some _ ⟨X.time.assumeUtc x, rfl⟩
    exact ⟨y, congrArg (orMessage _) hy⟩
  | json =>
    obtain ⟨text, j, hj⟩ := hX.json
    refine ⟨.text text, rfl, j, ?_⟩
    have hstr : (MssqlValueRef.mk ⟨.text text⟩).asStr = some text := rfl
    rw [decode, decodeJson, decodeFirst, hstr]
    dsimp only
    rw [hj]
    rfl
  | int i => rw [IntType.compatible_eq_false rfl] at h; cases h
  | _ => cases h

/-- A number that is zero by every accessor is read by whatever reads integers. -/
theorem decode_zero {value : MssqlValueRef} {n : I64} {x : Float} {b : Bool}
    (h : t.compatible ⟨.bigInt⟩ = true) (hn : value.asI64 = some n) (hzero : n.val = 0)
    (hx : value.asF64 = some x) (hb : value.asBool = some b) : ∃ y, decode X value t = .ok y := by
  cases t with
  | int i =>
    obtain ⟨zero, hi⟩ := i.tryFrom_zero
    rw [← hzero] at hi
    exact ⟨zero, decode_int hn hi⟩
  | bool => exact ⟨b, decode_bool hb⟩
  | f32 => exact ⟨x.toFloat32, decode_f32 hx⟩
  | f64 => exact ⟨x, decode_f64 hx⟩
  | _ => cases h

theorem readable_decimal (hX : X.Accepting) (precision : ℕ) (scale : ℤ) (text : String)
    (h : t.compatible ⟨.decimal precision scale⟩ = true) :
    Readable X t (.decimal text precision scale) := by
  refine ⟨.decimal "0" precision scale, rfl, ?_⟩
  have htext : (MssqlValueRef.mk ⟨.decimal "0" precision scale⟩).asStr = some "0" := rfl
  cases t with
  | int i => exact decode_zero (IntType.compatible_eq _ i) rfl rfl rfl rfl
  | bool | f32 | f64 => exact decode_zero rfl rfl rfl rfl rfl
  | decimal =>
    obtain ⟨d, hd⟩ := hX.decimalText
    have hnormal : normalizeDecimal "0" = "0" := rfl
    refine ⟨d, ?_⟩
    rw [decode, decodeDecimal, decodeFirst, htext]
    dsimp only
    rw [hnormal, hd]
    rfl
  | bigDecimal =>
    obtain ⟨d, hd⟩ := hX.bigDecimalText
    have htrim : trim "0" = "0" := rfl
    refine ⟨d, ?_⟩
    rw [decode, decodeBigDecimal, decodeFirst, htext]
    dsimp only
    rw [htrim, hd]
    rfl
  | _ => cases h

/-- Floating point numbers are read by everything they are compatible with, but not as integers. -/
theorem readable_double (hX : X.Accepting) (x : Float) (h : t.compatible ⟨.double⟩ = true)
    (hint : ∀ i, t ≠ .int i) : Readable X t (.double x) := by
  refine ⟨.double 0, rfl, ?_⟩
  cases t with
  | int i => exact absurd rfl (hint i)
  | bool | f32 | f64 => exact ⟨_, rfl⟩
  | decimal =>
    obtain ⟨d, hd⟩ := hX.decimalFloat
    exact ⟨d, congrArg (orMessage _) hd⟩
  | bigDecimal =>
    obtain ⟨d, hd⟩ := hX.bigDecimalFloat
    exact ⟨d, congrArg orPassed hd⟩
  | _ => cases h

theorem readable_real (x : Float32) (h : t.compatible ⟨.real⟩ = true)
    (hint : ∀ i, t ≠ .int i) : Readable X t (.real x) := by
  refine ⟨.real 0, rfl, ?_⟩
  cases t with
  | int i => exact absurd rfl (hint i)
  | bool | f32 | f64 => exact ⟨_, rfl⟩
  | _ => cases h

theorem readable_binary (hX : X.Accepting) (bytes : List UInt8)
    (h : t.compatible ⟨.varbinary none⟩ = true) : Readable X t (.binary bytes) := by
  cases t with
  | byteSlice | bytes => exact ⟨.binary [], rfl, _, rfl⟩
  | geometry =>
    obtain ⟨wkb, g, hg⟩ := hX.geometry
    refine ⟨.binary wkb, rfl, g, ?_⟩
    have hbytes : (MssqlValueRef.mk ⟨.binary wkb⟩).asBytes = some wkb := rfl
    rw [decode, decodeGeometry, hbytes]
    dsimp only
    rw [hg]
    rfl
  | int i => rw [IntType.compatible_eq_false rfl] at h; cases h
  | _ => cases h

/-- The first day of 2000. -/
def Date.firstDay : Date := ⟨⟨2000, by decide⟩, ⟨1, by decide⟩, ⟨1, by decide⟩⟩

/-- Midnight. -/
def Time.midnight : Time := ⟨⟨0, by decide⟩, ⟨0, by decide⟩, ⟨0, by decide⟩⟩

def Timestamp.firstDay : Timestamp :=
  ⟨Date.firstDay.year, Date.firstDay.month, Date.firstDay.day, Time.midnight.hour,
    Time.midnight.minute, Time.midnight.second, ⟨0, by decide⟩⟩

theorem readable_date (hX : X.Accepting) (date : Date) (h : t.compatible ⟨.date⟩ = true) :
    Readable X t (.date date) := by
  refine ⟨.date .firstDay, rfl, ?_⟩
  cases t with
  | date => exact ⟨.firstDay, rfl⟩
  | naiveDate =>
    obtain ⟨d, hd⟩ := hX.naiveDate
    exact ⟨d, congrArg (orMessage _) hd⟩
  | timeDate =>
    obtain ⟨m, d, hm, hd⟩ := hX.timeDate
    have hmonth : asU8 Date.firstDay.month = 1 := rfl
    refine ⟨d, ?_⟩
    rw [decode, decodeTimeDate, decodeDate]
    dsimp only [MssqlValueRef.rawDate]
    rw [hmonth, hm]
    exact congrArg (orMessage _) hd
  | int i => rw [IntType.compatible_eq_false rfl] at h; cases h
  | _ => cases h

theorem readable_time (hX : X.Accepting) (time : Time) (h : t.compatible ⟨.time 0⟩ = true) :
    Readable X t (.time time) := by
  refine ⟨.time .midnight, rfl, ?_⟩
  cases t with
  | time => exact ⟨.midnight, rfl⟩
  | naiveTime =>
    obtain ⟨x, hx⟩ := hX.naiveTime
    exact ⟨x, congrArg (orMessage _) hx⟩
  | timeTime =>
    obtain ⟨x, hx⟩ := hX.timeTime
    exact ⟨x, congrArg (orMessage _) hx⟩
  | int i => rw [IntType.compatible_eq_false rfl] at h; cases h
  | _ => cases h

theorem naiveFromTimestamp_firstDay (hX : X.Accepting) :
    ∃ x, naiveFromTimestamp X .firstDay = .ok x := by
  obtain ⟨d, hd⟩ := hX.naiveDate
  obtain ⟨x, hx⟩ := hX.naiveTimeNano
  have hdate : X.chrono.fromYmdOpt Timestamp.firstDay.year.val Timestamp.firstDay.month.val.toNat
    Timestamp.firstDay.day.val.toNat = some d := hd
  have htime : X.chrono.fromHmsNanoOpt Timestamp.firstDay.hour.val.toNat
    Timestamp.firstDay.minute.val.toNat Timestamp.firstDay.second.val.toNat
    Timestamp.firstDay.fraction.val.toNat = some x := hx
  rw [naiveFromTimestamp, hdate, htime]
  exact ⟨(d, x), rfl⟩

theorem primitiveFromTimestamp_firstDay (hX : X.Accepting) :
    ∃ x, primitiveFromTimestamp X .firstDay = .ok x := by
  obtain ⟨m, d, hm, hd⟩ := hX.timeDate
  obtain ⟨x, hx⟩ := hX.timeTimeNano
  have hmonth : X.time.monthTryFrom (asU8 Timestamp.firstDay.month) = some m := hm
  have hdate : X.time.fromCalendarDate Timestamp.firstDay.year.val m
    (asU8 Timestamp.firstDay.day) = some d := hd
  have htime : X.time.fromHmsNano (asU8 Timestamp.firstDay.hour)
    (asU8 Timestamp.firstDay.minute) (asU8 Timestamp.firstDay.second)
    Timestamp.firstDay.fraction.val.toNat = some x := hx
  rw [primitiveFromTimestamp, hmonth, htime]
  refine ⟨(d, x), ?_⟩
  dsimp only [orMessage, bind, Except.bind]
  rw [hdate]
  rfl

theorem readable_timestamp (hX : X.Accepting) (timestamp : Timestamp)
    (h : t.compatible ⟨.timestamp 6⟩ = true) : Readable X t (.timestamp timestamp) := by
  refine ⟨.timestamp .firstDay, rfl, ?_⟩
  obtain ⟨x, hx⟩ := naiveFromTimestamp_firstDay hX
  obtain ⟨y, hy⟩ := primitiveFromTimestamp_firstDay hX
  cases t with
  | timestamp => exact ⟨.firstDay, rfl⟩
  | naiveDateTime => exact ⟨x, hx⟩
  | dateTimeUtc | dateTimeFixed | dateTimeLocal => exact ⟨_, congrArg (Except.map _) hx⟩
  | primitiveDateTime => exact ⟨y, hy⟩
  | offsetDateTime => exact ⟨_, congrArg (Except.map _) hy⟩
  | int i => rw [IntType.compatible_eq_false rfl] at h; cases h
  | _ => cases h

theorem readable_guid (bytes : Guid) (h : t.compatible .guid = true) :
    Readable X t (.guid bytes) := by
  refine ⟨.guid (Vector.replicate 16 0), rfl, ?_⟩
  cases t with
  | uuid => exact ⟨_, rfl⟩
  | int i => rw [IntType.compatible_eq_false rfl] at h; cases h
  | _ => cases h

/-- **A kind whose own data type is compatible can be read**, except floating point numbers as
integers. -/
theorem readable_of_compatible (hX : X.Accepting) {kind : MssqlValueKind}
    (hcompat : t.compatible kind.typeInfo = true)
    (hint : kind.isFloating = true → ∀ i, t ≠ .int i) : Readable X t kind := by
  cases kind with
  | null | bit v =>
    cases t with
    | int i => rw [IntType.compatible_eq_false rfl] at hcompat; cases hcompat
    | _ => cases hcompat
  | tinyInt v => exact ⟨.tinyInt default, rfl, decode_zero hcompat rfl rfl rfl rfl⟩
  | smallInt v => exact ⟨.smallInt default, rfl, decode_zero hcompat rfl rfl rfl rfl⟩
  | integer v => exact ⟨.integer default, rfl, decode_zero hcompat rfl rfl rfl rfl⟩
  | bigInt v => exact ⟨.bigInt default, rfl, decode_zero hcompat rfl rfl rfl rfl⟩
  | real x => exact readable_real x hcompat (hint rfl)
  | double x => exact readable_double hX x hcompat (hint rfl)
  | text text => exact readable_text hX hcompat text
  | binary bytes => exact readable_binary hX bytes hcompat
  | decimal text precision scale => exact readable_decimal hX precision scale text hcompat
  | date date => exact readable_date hX date hcompat
  | time time => exact readable_time hX time hcompat
  | timestamp timestamp => exact readable_timestamp hX timestamp hcompat
  | guid bytes => exact readable_guid bytes hcompat

/-- No floating point number is read as an integer. -/
theorem not_readable_int {kind : MssqlValueKind} (h : kind.isFloating = true) (i : IntType) :
    ¬ Readable X (.int i) kind := by
  rintro ⟨kind', hctor, x, hx⟩
  cases kind with
  | real _ | double _ =>
    cases kind' <;> cases hctor
    cases hx
  | _ => cases h

end Readable

/-! ## What a value reports -/

section Reported

variable {fits : Prop} {t : RustType} {dataType : DataType} {k k' : MssqlValueKind}

/-- What is fetched as text is compatible with whatever its column is, but not as a geometry. -/
theorem text_compatible_iff (h : dataType.fetchedAsText = true)
    (hcompat : t.compatible ⟨dataType⟩ = true) : t.compatible ⟨.wVarchar none⟩ = true ↔
      ¬ (t = .geometry ∧ dataType.isOther (-151) = true) := by
  cases dataType with
  | other sqlType columnSize decimalDigits =>
    have hne : sqlType ≠ -11 := of_decide_eq_true h
    cases t with
    | geometry =>
      have hudt : (decide (sqlType = -151) || false) = true := hcompat
      rw [Bool.or_false] at hudt
      exact iff_of_false Bool.false_ne_true (not_not.2 ⟨rfl, hudt⟩)
    | uuid => exact absurd (of_decide_eq_true hcompat) hne
    | int i => rw [IntType.compatible_eq_false rfl] at hcompat; cases hcompat
    | str | string | dateTimeUtc | dateTimeFixed | dateTimeLocal | offsetDateTime =>
      exact iff_of_true rfl fun h ↦ RustType.noConfusion h.1
    | _ => cases hcompat
  | unknown =>
    cases t with
    | int i => rw [IntType.compatible_eq_false rfl] at hcompat; cases hcompat
    | _ => cases hcompat
  | char _ | varchar _ | longVarchar _ | wChar _ | wVarchar _ | wLongVarchar _ =>
    rw [compatible_characters t rfl] at hcompat
    exact iff_of_true hcompat (by rintro ⟨-, ⟨⟩⟩)
  | _ => cases h

/-- The type an unbuffered value reports is as compatible as that of its column. -/
theorem Fetched.unbuffered_compatible_iff (h : Fetched fits dataType k k')
    (hcompat : t.compatible ⟨dataType⟩ = true) : t.compatible k.typeInfo = true ↔
      ¬ (t = .geometry ∧ dataType.isOther (-151) = true) := by
  cases h with
  | text htext hfits => exact text_compatible_iff htext hcompat
  | binary hbinary hfits =>
    rw [compatible_binaries t hbinary] at hcompat
    cases dataType with
    | binary _ | varbinary _ | longVarbinary _ => exact iff_of_true hcompat (by rintro ⟨-, ⟨⟩⟩)
    | _ => cases hbinary
  | float precision x =>
    exact iff_of_true ((compatible_float t precision).symm.trans hcompat) (by rintro ⟨-, ⟨⟩⟩)
  | numeric precision scale hfits =>
    exact iff_of_true ((compatible_numeric t precision scale).symm.trans hcompat)
      (by rintro ⟨-, ⟨⟩⟩)
  | time precision time =>
    exact iff_of_true ((compatible_time t precision 0).symm.trans hcompat) (by rintro ⟨-, ⟨⟩⟩)
  | timestamp precision timestamp =>
    exact iff_of_true ((compatible_timestamp t precision 6).symm.trans hcompat)
      (by rintro ⟨-, ⟨⟩⟩)
  | guid columnSize decimalDigits bytes hfits =>
    exact iff_of_true ((compatible_other t (-11) columnSize none decimalDigits 0).symm.trans
      hcompat) (by rintro ⟨-, ⟨⟩⟩)
  | _ => exact iff_of_true hcompat (by rintro ⟨-, ⟨⟩⟩)

/-- The two modes differ in the type they report for a GUID only. -/
theorem Fetched.compatible_eq (h : Fetched fits dataType k k')
    (hguid : dataType.isOther (-11) = false) (t : RustType) :
    t.compatible k.typeInfo = t.compatible k'.typeInfo := by
  cases h with
  | tinyInt v | smallInt v | integer v => exact compatible_integers t (by simp) (by simp)
  | guid columnSize decimalDigits bytes hfits => cases hguid
  | _ => rfl

/-- A UUID is the only type that is read from a `UNIQUEIDENTIFIER`, and it takes nothing else. -/
theorem compatible_guid_iff (hcompat : t.compatible ⟨dataType⟩ = true) :
    t = .uuid ↔ dataType.isOther (-11) = true := by
  constructor
  · rintro rfl
    exact hcompat
  · intro hguid
    cases dataType with
    | other sqlType columnSize decimalDigits =>
      have hcode : sqlType = -11 := of_decide_eq_true hguid
      subst hcode
      cases t with
      | uuid => rfl
      | int i => rw [IntType.compatible_eq_false rfl] at hcompat; cases hcompat
      | _ => cases hcompat
    | _ => cases hguid

/-- Buffered, a UUID is reported as text. -/
theorem Fetched.buffered_compatible_iff (h : Fetched fits dataType k k')
    (hcompat : t.compatible ⟨dataType⟩ = true) : t.compatible k'.typeInfo = true ↔
      ¬ (t = .uuid ∨ t = .geometry ∧ dataType.isOther (-151) = true) := by
  cases hguid : dataType.isOther (-11) with
  | true =>
    obtain rfl := (compatible_guid_iff hcompat).2 hguid
    refine iff_of_false ?_ (not_not.2 (.inl rfl))
    cases h with
    | text htext hfits => exact Bool.false_ne_true
    | binary hbinary hfits => exact Bool.false_ne_true
    | guid columnSize decimalDigits bytes hfits => exact Bool.false_ne_true
    | _ => cases hguid
  | false =>
    have huuid : t ≠ .uuid := fun h ↦
      Bool.false_ne_true (hguid.symm.trans ((compatible_guid_iff hcompat).1 h))
    rw [← h.compatible_eq hguid, h.unbuffered_compatible_iff hcompat, or_iff_right huuid]

/-- Floating point numbers come from floating point columns. -/
theorem Fetched.isFloating (h : Fetched fits dataType k k') :
    k.isFloating = dataType.isFloating ∧ k'.isFloating = dataType.isFloating := by
  cases h with
  | text htext hfits =>
    cases dataType with
    | real | float _ | double => cases htext
    | _ => exact ⟨rfl, rfl⟩
  | binary hbinary hfits =>
    cases dataType with
    | real | float _ | double => cases hbinary
    | _ => exact ⟨rfl, rfl⟩
  | _ => exact ⟨rfl, rfl⟩

end Reported

namespace FetchMode.Fetches

variable {X : Crates} {t : RustType} {mode : FetchMode} {dataType : DataType}
  {kind : MssqlValueKind}

theorem isFloating (h : mode.Fetches dataType kind) : kind.isFloating = dataType.isFloating := by
  obtain ⟨fits, other, h⟩ := h
  cases mode with
  | unbuffered => exact h.isFloating.1
  | buffered maxColumnSize => exact h.isFloating.2

theorem compatible_iff (h : mode.Fetches dataType kind)
    (hcompat : t.compatible ⟨dataType⟩ = true) : t.compatible kind.typeInfo = true ↔
      ¬ (t = .uuid ∧ mode ≠ .unbuffered ∨ t = .geometry ∧ dataType.isOther (-151) = true) := by
  obtain ⟨fits, other, h⟩ := h
  cases mode with
  | unbuffered => simpa using h.unbuffered_compatible_iff hcompat
  | buffered maxColumnSize => simpa using h.buffered_compatible_iff hcompat

theorem misread_iff (hint : ∀ i, t ≠ .int i) : Misread mode dataType t ↔
    t = .uuid ∧ mode ≠ .unbuffered ∨ t = .geometry ∧ dataType.isOther (-151) = true := by
  cases t with
  | int i => exact absurd rfl (hint i)
  | _ => simp [Misread]

/-- Whether the value is sound for the type, by what is misread. -/
theorem sound_iff (hX : X.Accepting) (h : mode.Fetches dataType kind)
    (hcompat : t.compatible ⟨dataType⟩ = true) :
    Sound X t ⟨kind⟩ ↔ ¬ Misread mode dataType t := by
  have hreported := h.compatible_iff hcompat
  have hfloating := h.isFloating
  cases t with
  | int i =>
    have hcompatible := hreported.2 (by rintro (⟨⟨⟩, -⟩ | ⟨⟨⟩, -⟩))
    cases hkind : kind.isFloating with
    | true =>
      refine iff_of_false (fun hsound ↦ not_readable_int hkind i hsound.2) (not_not.2 ?_)
      exact hfloating.symm.trans hkind
    | false =>
      refine iff_of_true ⟨hcompatible, readable_of_compatible hX hcompatible ?_⟩ ?_
      · exact fun h ↦ absurd (hkind.symm.trans h) Bool.false_ne_true
      · exact fun h ↦ Bool.false_ne_true (hkind.symm.trans (hfloating.trans h))
  | _ =>
    rw [misread_iff fun _ ↦ RustType.noConfusion, ← hreported]
    constructor
    · exact fun hsound ↦ hsound.1
    · exact fun hcompatible ↦
        ⟨hcompatible, readable_of_compatible hX hcompatible fun _ _ ↦ RustType.noConfusion⟩

end FetchMode.Fetches

/-- **Compatibility is sound along the fetch path, but for three types.**  Take a cell of any data
type that is not NULL, either fetch mode and a Rust type that is compatible with the column.  The
cell is fetched, and what is fetched is compatible again and of a kind the decoder reads, if and
only if the column is not misread: it is no floating point column that is read as an integer, no
UUID that is fetched buffered, and no spatial column that is read as a geometry. -/
theorem compatible_sound_iff {X : Crates} (hX : X.Accepting) {column : MssqlColumn} {cell : Cell}
    (hholds : cell.Holds column.typeInfo.dataType) (mode : FetchMode) {t : RustType}
    (hcompat : t.compatible column.typeInfo = true) :
    (∃ value, mode.fetch column cell = .ok value ∧ Sound X t value) ↔
      ¬ Misread mode column.typeInfo.dataType t := by
  obtain ⟨kind, hfetch, hfetches⟩ := fetches_of_holds mode hholds
  rw [← hfetches.sound_iff hX hcompat]
  constructor
  · rintro ⟨value, hvalue, hsound⟩
    cases hfetch.symm.trans hvalue
    exact hsound
  · exact fun hsound ↦ ⟨_, hfetch, hsound⟩

theorem Crates.sample_accepting : Crates.sample.Accepting where
  naiveDate := ⟨_, rfl⟩
  naiveTime := ⟨_, rfl⟩
  naiveTimeNano := ⟨_, rfl⟩
  naiveTimeText := ⟨_, rfl⟩
  naiveDateTimeText := ⟨_, rfl⟩
  timeDate := ⟨_, _, rfl, rfl⟩
  timeTime := ⟨_, rfl⟩
  timeTimeNano := ⟨_, rfl⟩
  timeTimeText := ⟨_, rfl⟩
  primitiveText := ⟨_, rfl⟩
  decimalText := ⟨_, rfl⟩
  decimalFloat := ⟨_, rfl⟩
  bigDecimalText := ⟨_, rfl⟩
  bigDecimalFloat := ⟨_, rfl⟩
  json := ⟨"0", _, rfl⟩
  geometry := ⟨[1], _, rfl⟩

/-- A date is read as a `NaiveDate`. -/
theorem naiveDate_sound : ∃ value,
    FetchMode.unbuffered.fetch ⟨0, "d", ⟨.date⟩, none⟩
      { Cell.null with date := .ok (some .firstDay) } = .ok value ∧
      Sound Crates.sample .naiveDate value := by
  refine (compatible_sound_iff Crates.sample_accepting ?_ .unbuffered rfl).2 id
  exact ⟨.firstDay, rfl⟩

/-- A floating point column is compatible with `i32`, but no value of it is read as one. -/
theorem compatible_unsound :
    let real : MssqlColumn := ⟨0, "x", ⟨.real⟩, none⟩
    let cell := { Cell.null with f32 := .ok (some 1) }
    cell.Holds real.typeInfo.dataType ∧ (RustType.int .i32).compatible real.typeInfo = true ∧
      ¬ ∃ value, FetchMode.unbuffered.fetch real cell = .ok value ∧
        Sound Crates.sample (.int .i32) value := by
  refine ⟨⟨1, rfl⟩, rfl, ?_⟩
  rintro ⟨value, hvalue, -, hreadable⟩
  cases hvalue
  exact not_readable_int rfl _ hreadable

end MssqlOdbc
