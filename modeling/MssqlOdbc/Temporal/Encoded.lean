import MssqlOdbc.Temporal.Laws

/-!
# Dates and times through the ODBC structures

Encoding writes a date or a date-time field by field into an ODBC structure, with the year in
sixteen bits and the nanoseconds cut to microseconds; decoding builds a value from the fields again.
Both crates do so, and on the years they share they do the same.

What decoding makes of a structure is said once for each crate (`naiveFromTimestamp_eq_ok`,
`primitiveFromTimestamp_eq_ok`), and what encoding writes once for both (`timestampOf_encodes`).
-/

set_option autoImplicit false

namespace MssqlOdbc

/-! ## Fields -/

theorem IntType.wrap_val {ty : IntType} {v : ℤ} (h : ty.min ≤ v ∧ v ≤ ty.max) :
    (ty.wrap v).val = v := by
  have hmod : (v - ty.min) % (ty.max - ty.min + 1) = v - ty.min :=
    Int.emod_eq_of_lt (by omega) (by omega)
  show (v - ty.min) % (ty.max - ty.min + 1) + ty.min = v
  rw [hmod]
  omega

/-- A number that does not fit the type becomes another one. -/
theorem IntType.wrap_val_iff {ty : IntType} {v : ℤ} :
    (ty.wrap v).val = v ↔ ty.min ≤ v ∧ v ≤ ty.max := by
  constructor
  · intro h
    rw [← h]
    exact (ty.wrap v).property
  · exact IntType.wrap_val

theorem IntType.wrap_u16 {n : ℕ} (h : n ≤ 65535) : (IntType.u16.wrap n).val.toNat = n := by
  have hmem : IntType.u16.min ≤ (n : ℤ) ∧ (n : ℤ) ≤ IntType.u16.max :=
    ⟨Int.natCast_nonneg n, Int.ofNat_le.2 h⟩
  rw [IntType.wrap_val hmem, Int.toNat_natCast]

/-- The structure has the fields of the date, but for the bits of the year that are lost. -/
structure Date.Encodes (raw : Date) (date : Civil.Date) : Prop where
  year : raw.year = IntType.i16.wrap date.year
  month : raw.month.val.toNat = date.month
  day : raw.day.val.toNat = date.day

/-- The structure has the fields of the date-time, cut to microseconds, but for the bits of the year
that are lost. -/
structure Timestamp.Encodes (raw : Timestamp) (x : Civil.DateTime) : Prop where
  year : raw.year = IntType.i16.wrap x.date.year
  month : raw.month.val.toNat = x.date.month
  day : raw.day.val.toNat = x.date.day
  hour : raw.hour.val.toNat = x.time.hour
  minute : raw.minute.val.toNat = x.time.minute
  second : raw.second.val.toNat = x.time.second
  fraction : raw.fraction.val = x.time.truncate.nano

theorem dateOfYmd_encodes (date : Civil.Date) : (dateOfYmd date.ymd).Encodes date where
  year := rfl
  month := IntType.wrap_u16 (date.month_le.trans (by decide))
  day := IntType.wrap_u16 (date.day_le.trans (by decide))

theorem timestampOf_encodes (x : Civil.DateTime) :
    (timestampOf (dateOfYmd x.date.ymd) (timeOfHms x.time.hms) x.time.nano).Encodes x where
  year := rfl
  month := (dateOfYmd_encodes x.date).month
  day := (dateOfYmd_encodes x.date).day
  hour := IntType.wrap_u16 (x.time.hour_lt.le.trans (by decide))
  minute := IntType.wrap_u16 (x.time.minute_lt.le.trans (by decide))
  second := IntType.wrap_u16 (x.time.second_lt.le.trans (by decide))
  fraction := by
    have hnano := x.time.truncate.nano_lt
    have hmem : IntType.u32.min ≤ (x.time.truncate.nano : ℤ) ∧
        (x.time.truncate.nano : ℤ) ≤ IntType.u32.max := by
      simp only [IntType.min, IntType.max]
      omega
    exact IntType.wrap_val hmem

/-! ## Decoding -/

theorem orMessage_eq_ok {α : Type} {text : String} {o : Option α} {a : α} :
    orMessage text o = .ok a ↔ o = some a := by
  cases o with
  | none => exact ⟨nofun, nofun⟩
  | some b => rw [orMessage, Except.ok.injEq, Option.some.injEq]

theorem orMessage_bind_eq_ok {α β : Type} {text : String} {o : Option α}
    {f : α → Except DecodeError β} {b : β} :
    (orMessage text o >>= f) = .ok b ↔ ∃ a, o = some a ∧ f a = .ok b := by
  cases o with
  | none => exact ⟨nofun, nofun⟩
  | some a =>
    constructor
    · intro h
      exact ⟨a, rfl, h⟩
    · rintro ⟨a', ha, h⟩
      cases ha
      exact h

section Decoding

variable {X : Crates} {W : X.Writers}

/-- **The `chrono` date-time of a structure is the one with its fields.** -/
theorem naiveFromTimestamp_eq_ok (laws : W.ChronoLaws) {raw : Timestamp}
    (hfraction : raw.fraction.val < 1000000000) {naive : X.chrono.NaiveDate × X.chrono.NaiveTime} :
    naiveFromTimestamp X raw = .ok naive ↔
      W.naiveYmd naive.1 = (raw.year.val, raw.month.val.toNat, raw.day.val.toNat) ∧
        W.naiveHms naive.2 = (raw.hour.val.toNat, raw.minute.val.toNat, raw.second.val.toNat) ∧
        W.naiveNanosecond naive.2 = raw.fraction.val.toNat := by
  obtain ⟨date, time⟩ := naive
  have hnano : raw.fraction.val.toNat < 1000000000 := by omega
  rw [naiveFromTimestamp, orMessage_bind_eq_ok]
  simp only [orMessage_bind_eq_ok, laws.fromYmdOpt, laws.fromHmsNanoOpt _ _ _ _ _ hnano]
  constructor
  · rintro ⟨date', hdate, time', htime, heq⟩
    cases heq
    exact ⟨hdate, htime⟩
  · rintro ⟨hdate, htime⟩
    exact ⟨date, hdate, time, htime, rfl⟩

/-- **The `time` date-time of a structure is the one with its fields**, as far as eight bits of
each of them go. -/
theorem primitiveFromTimestamp_eq_ok (laws : W.TimeLaws) {raw : Timestamp}
    {primitive : X.time.Date × X.time.Time} :
    primitiveFromTimestamp X raw = .ok primitive ↔
      W.timeYmd primitive.1 = (raw.year.val, asU8 raw.month, asU8 raw.day) ∧
        W.timeHms primitive.2 = (asU8 raw.hour, asU8 raw.minute, asU8 raw.second) ∧
        W.timeNanosecond primitive.2 = raw.fraction.val.toNat := by
  obtain ⟨date, time⟩ := primitive
  rw [← laws.fromCalendarDate, ← laws.fromHmsNano, Option.bind_eq_some_iff,
    primitiveFromTimestamp, orMessage_bind_eq_ok]
  simp only [orMessage_bind_eq_ok]
  constructor
  · rintro ⟨month, hmonth, date', hdate, time', htime, heq⟩
    cases heq
    exact ⟨⟨month, hmonth, hdate⟩, htime⟩
  · rintro ⟨⟨month, hmonth, hdate⟩, htime⟩
    exact ⟨month, hmonth, date, hdate, time, htime, rfl⟩

/-- A year that fits sixteen bits. -/
def FitsI16 (year : ℤ) : Prop := -32768 ≤ year ∧ year ≤ 32767

theorem wrap_year_iff {year : ℤ} : (IntType.i16.wrap year).val = year ↔ FitsI16 year :=
  IntType.wrap_val_iff

/-- Decoded by `chrono`, an encoded date-time is cut to microseconds, in the year that is left. -/
theorem naiveFromTimestamp_encoded (laws : W.ChronoLaws) {raw : Timestamp} {x : Civil.DateTime}
    (h : raw.Encodes x) {naive : X.chrono.NaiveDate × X.chrono.NaiveTime} :
    naiveFromTimestamp X raw = .ok naive ↔
      W.naiveYmd naive.1 = (raw.year.val, x.date.month, x.date.day) ∧
        W.naiveHms naive.2 = x.time.hms ∧ W.naiveNanosecond naive.2 = x.time.truncate.nano := by
  have hnano := x.time.truncate.nano_lt
  have hfraction : raw.fraction.val < 1000000000 := by
    rw [h.fraction]
    omega
  rw [naiveFromTimestamp_eq_ok laws hfraction, h.month, h.day, h.hour, h.minute, h.second,
    h.fraction, Int.toNat_natCast]
  rfl

theorem naiveFromTimestamp_of_fits (laws : W.ChronoLaws) {raw : Timestamp} {x : Civil.DateTime}
    (h : raw.Encodes x) (hyear : FitsI16 x.date.year)
    (naive : X.chrono.NaiveDate × X.chrono.NaiveTime) :
    naiveFromTimestamp X raw = .ok naive ↔ W.NaiveIs naive x.truncate := by
  rw [naiveFromTimestamp_encoded laws h, h.year, wrap_year_iff.2 hyear]
  rfl

/-- Decoded by `time`, an encoded date-time is cut to microseconds. -/
theorem primitiveFromTimestamp_of_fits (laws : W.TimeLaws) {raw : Timestamp} {x : Civil.DateTime}
    (h : raw.Encodes x) (hyear : FitsI16 x.date.year) (primitive : X.time.Date × X.time.Time) :
    primitiveFromTimestamp X raw = .ok primitive ↔ W.PrimitiveIs primitive x.truncate := by
  have hdate := x.date.month_le
  have hday := x.date.day_le
  have hhour := x.time.hour_lt
  have hminute := x.time.minute_lt
  have hsecond := x.time.second_lt
  rw [primitiveFromTimestamp_eq_ok laws, h.year, wrap_year_iff.2 hyear, h.fraction,
    Int.toNat_natCast]
  simp only [asU8, h.month, h.day, h.hour, h.minute, h.second]
  rw [Nat.mod_eq_of_lt (by omega), Nat.mod_eq_of_lt (by omega), Nat.mod_eq_of_lt (by omega),
    Nat.mod_eq_of_lt (by omega), Nat.mod_eq_of_lt (by omega)]
  rfl

/-! ## Every date of `chrono` -/

variable (W) in
/-- The date cannot be encoded, or it is encoded as a structure that decodes to it. -/
def DateKept (date : X.chrono.NaiveDate) : Prop :=
  (∃ e, encode W [] .naiveDate date = (.error e, [])) ∨
    ∃ raw, encode W [] .naiveDate date = (.ok .no, [.date raw]) ∧
      decode X ⟨⟨.date raw⟩⟩ .naiveDate = .ok date

variable (W) in
/-- The date-time cannot be encoded, or it is encoded as a structure that decodes to the same date
and to the time of day cut to microseconds. -/
def DateTimeKept (naive : X.chrono.NaiveDate × X.chrono.NaiveTime) : Prop :=
  (∃ e, encode W [] .naiveDateTime naive = (.error e, [])) ∨
    ∃ raw time, encode W [] .naiveDateTime naive = (.ok .no, [.timestamp raw]) ∧
      decode X ⟨⟨.timestamp raw⟩⟩ .naiveDateTime = .ok (naive.1, time) ∧
      W.naiveHms time = W.naiveHms naive.2 ∧
      W.naiveNanosecond time = W.naiveNanosecond naive.2 / 1000 * 1000

theorem encode_naiveDate {date : X.chrono.NaiveDate} {civil : Civil.Date}
    (h : W.naiveYmd date = civil.ymd) :
    encode W [] .naiveDate date = (.ok .no, [.date (dateOfYmd civil.ymd)]) := by
  rw [← h]
  rfl

theorem encode_naiveDateTime {naive : X.chrono.NaiveDate × X.chrono.NaiveTime}
    {x : Civil.DateTime} (h : W.NaiveIs naive x) : encode W [] .naiveDateTime naive =
      (.ok .no, [.timestamp (timestampOf (dateOfYmd x.date.ymd) (timeOfHms x.time.hms)
        x.time.nano)]) := by
  obtain ⟨hdate, hhms, hnano⟩ := h
  rw [← hdate, ← hhms, ← hnano]
  rfl

theorem encode_primitiveDateTime {primitive : X.time.Date × X.time.Time}
    {x : Civil.DateTime} (h : W.PrimitiveIs primitive x) :
    encode W [] .primitiveDateTime primitive =
      (.ok .no, [.timestamp (timestampOf (dateOfYmd x.date.ymd) (timeOfHms x.time.hms)
        x.time.nano)]) := by
  obtain ⟨hdate, hhms, hnano⟩ := h
  rw [← hdate, ← hhms, ← hnano]
  rfl

theorem dateKept_iff (laws : W.ChronoLaws) (date : X.chrono.NaiveDate) :
    DateKept W date ↔ FitsI16 (W.naiveYmd date).1 := by
  obtain ⟨civil, hcivil⟩ := laws.date date
  have hencode := encode_naiveDate hcivil
  have hraw := dateOfYmd_encodes civil
  have hfrom : decode X ⟨⟨.date (dateOfYmd civil.ymd)⟩⟩ .naiveDate = .ok date ↔
      X.chrono.fromYmdOpt (dateOfYmd civil.ymd).year.val (dateOfYmd civil.ymd).month.val.toNat
        (dateOfYmd civil.ymd).day.val.toNat = some date := orMessage_eq_ok
  have hdecode : decode X ⟨⟨.date (dateOfYmd civil.ymd)⟩⟩ .naiveDate = .ok date ↔
      FitsI16 (W.naiveYmd date).1 := by
    rw [hfrom, laws.fromYmdOpt, hcivil, hraw.year, hraw.month, hraw.day, Civil.Date.ymd,
      Prod.mk.injEq, and_iff_left rfl, eq_comm, wrap_year_iff]
  rw [DateKept, hencode]
  constructor
  · rintro (⟨e, herror⟩ | ⟨raw, hpush, hback⟩)
    · cases herror
    · cases hpush
      exact hdecode.1 hback
  · intro hyear
    exact Or.inr ⟨_, rfl, hdecode.2 hyear⟩

theorem dateTimeKept_iff (laws : W.ChronoLaws)
    (naive : X.chrono.NaiveDate × X.chrono.NaiveTime)
    (hnano : W.naiveNanosecond naive.2 < 1000000000) :
    DateTimeKept W naive ↔ FitsI16 (W.naiveYmd naive.1).1 := by
  obtain ⟨x, hx⟩ := laws.naiveIs naive hnano
  have hencode := encode_naiveDateTime hx
  have hraw := timestampOf_encodes x
  obtain ⟨hdate, hhms, hns⟩ := hx
  rw [DateTimeKept, hencode]
  constructor
  · rintro (⟨e, herror⟩ | ⟨raw, time, hpush, hback, -, -⟩)
    · cases herror
    · cases hpush
      have hymd := ((naiveFromTimestamp_encoded laws hraw).1 hback).1
      rw [hdate, hraw.year] at hymd
      have hyear : x.date.year = (IntType.i16.wrap x.date.year).val := congrArg Prod.fst hymd
      rw [hdate]
      exact wrap_year_iff.1 hyear.symm
  · intro hyear
    rw [hdate] at hyear
    obtain ⟨time, htime, htrunc⟩ := laws.time_exists x.time.truncate
    have hback := (naiveFromTimestamp_of_fits laws hraw hyear (naive.1, time)).2
      ⟨hdate, htime, htrunc⟩
    refine Or.inr ⟨_, time, rfl, hback, ?_, ?_⟩
    · rw [htime, hhms]
      rfl
    · rw [htrunc, hns]
      rfl

/-- **The dates of `chrono` that survive being encoded.**  A date, or a date-time outside a leap
second, is kept by its own decoder, cut to microseconds, exactly when its year fits sixteen bits.
Any other is encoded as a structure with another year. -/
theorem chrono_kept_iff (laws : W.ChronoLaws) :
    (∀ date : X.chrono.NaiveDate, DateKept W date ↔ FitsI16 (W.naiveYmd date).1) ∧
      ∀ naive : X.chrono.NaiveDate × X.chrono.NaiveTime,
        W.naiveNanosecond naive.2 < 1000000000 →
          (DateTimeKept W naive ↔ FitsI16 (W.naiveYmd naive.1).1) :=
  ⟨dateKept_iff laws, dateTimeKept_iff laws⟩

/-! ## Both crates -/

variable (W) in
/-- Encoded and decoded again by `chrono`, the date-time `x` is `y`. -/
def NaiveImage (x y : Civil.DateTime) : Prop :=
  ∃ naive raw naive', W.NaiveIs naive x ∧
    encode W [] .naiveDateTime naive = (.ok .no, [.timestamp raw]) ∧
    decode X ⟨⟨.timestamp raw⟩⟩ .naiveDateTime = .ok naive' ∧ W.NaiveIs naive' y

variable (W) in
/-- Encoded and decoded again by `time`, the date-time `x` is `y`. -/
def PrimitiveImage (x y : Civil.DateTime) : Prop :=
  ∃ primitive raw primitive', W.PrimitiveIs primitive x ∧
    encode W [] .primitiveDateTime primitive = (.ok .no, [.timestamp raw]) ∧
    decode X ⟨⟨.timestamp raw⟩⟩ .primitiveDateTime = .ok primitive' ∧ W.PrimitiveIs primitive' y

/-- The years of both crates. -/
def Shared (x : Civil.DateTime) : Prop := -9999 ≤ x.date.year ∧ x.date.year ≤ 9999

theorem Shared.fitsI16 {x : Civil.DateTime} (h : Shared x) : FitsI16 x.date.year :=
  ⟨h.1.trans' (by decide), h.2.trans (by decide)⟩

theorem naiveImage_iff (laws : W.ChronoLaws) {x : Civil.DateTime} (hx : Shared x)
    (y : Civil.DateTime) : NaiveImage W x y ↔ y = x.truncate := by
  have hback := naiveFromTimestamp_of_fits laws (timestampOf_encodes x) hx.fitsI16
  constructor
  · rintro ⟨naive, raw, naive', hnaive, hencode, hdecode, hy⟩
    rw [encode_naiveDateTime hnaive] at hencode
    cases hencode
    exact hy.unique ((hback naive').1 hdecode)
  · rintro rfl
    have hyear : -262143 ≤ x.date.year ∧ x.date.year ≤ 262142 :=
      ⟨hx.1.trans' (by decide), hx.2.trans (by decide)⟩
    obtain ⟨naive, hnaive⟩ := laws.naiveIs_exists hyear.1 hyear.2
    obtain ⟨naive', hnaive'⟩ := laws.naiveIs_exists (x := x.truncate) hyear.1 hyear.2
    exact ⟨naive, _, naive', hnaive, encode_naiveDateTime hnaive, (hback naive').2 hnaive',
      hnaive'⟩

theorem primitiveImage_iff (laws : W.TimeLaws) {x : Civil.DateTime} (hx : Shared x)
    (y : Civil.DateTime) : PrimitiveImage W x y ↔ y = x.truncate := by
  have hback := primitiveFromTimestamp_of_fits laws (timestampOf_encodes x) hx.fitsI16
  constructor
  · rintro ⟨primitive, raw, primitive', hprimitive, hencode, hdecode, hy⟩
    rw [encode_primitiveDateTime hprimitive] at hencode
    cases hencode
    exact hy.unique ((hback primitive').1 hdecode)
  · rintro rfl
    obtain ⟨primitive, hprimitive⟩ := laws.primitiveIs_exists hx.1 hx.2
    obtain ⟨primitive', hprimitive'⟩ := laws.primitiveIs_exists (x := x.truncate) hx.1 hx.2
    exact ⟨primitive, _, primitive', hprimitive, encode_primitiveDateTime hprimitive,
      (hback primitive').2 hprimitive', hprimitive'⟩

/-- **The two crates agree on date-times.**  In the years they share, a date-time is encoded as the
same structure from both, with a fraction of whole microseconds below a second, and either decoder
makes the date-time cut to microseconds of it.  Going through the database a second time changes
nothing, keeps the order, and never moves a date-time forward, nor back by a microsecond. -/
theorem dateTimes_agree (hchrono : W.ChronoLaws) (htime : W.TimeLaws) {x : Civil.DateTime}
    (hx : Shared x) :
    (∃ raw : Timestamp,
      (∀ naive, W.NaiveIs naive x →
        encode W [] .naiveDateTime naive = (.ok .no, [.timestamp raw])) ∧
      (∀ primitive, W.PrimitiveIs primitive x →
        encode W [] .primitiveDateTime primitive = (.ok .no, [.timestamp raw])) ∧
      raw.fraction.val < 1000000000 ∧ raw.fraction.val % 1000 = 0) ∧
    (∀ y, NaiveImage W x y ↔ y = x.truncate) ∧ (∀ y, PrimitiveImage W x y ↔ y = x.truncate) ∧
    (∀ y, NaiveImage W x y → NaiveImage W y y ∧ PrimitiveImage W y y) ∧
    ∀ y, NaiveImage W x y →
      y.instant ≤ x.instant ∧ x.instant < y.instant + 1000 ∧
      ∀ x' y', Shared x' → NaiveImage W x' y' → x.instant ≤ x'.instant →
        y.instant ≤ y'.instant := by
  have hnaive := naiveImage_iff hchrono hx
  have hshared : Shared x.truncate := hx
  refine ⟨⟨_, fun _ ↦ encode_naiveDateTime, fun _ ↦ encode_primitiveDateTime, ?_, ?_⟩, hnaive,
    primitiveImage_iff htime hx, ?_, ?_⟩
  · have hnano := x.time.truncate.nano_lt
    rw [(timestampOf_encodes x).fraction]
    omega
  · rw [(timestampOf_encodes x).fraction]
    simp only [Civil.Time.truncate]
    omega
  · intro y hy
    obtain rfl := (hnaive y).1 hy
    rw [naiveImage_iff hchrono hshared, primitiveImage_iff htime hshared,
      Civil.DateTime.truncate_truncate]
    exact ⟨rfl, rfl⟩
  · intro y hy
    obtain rfl := (hnaive y).1 hy
    refine ⟨x.truncate_le, x.lt_truncate_add, fun x' y' hx' hy' hle ↦ ?_⟩
    rw [(naiveImage_iff hchrono hx' y').1 hy']
    exact Civil.DateTime.truncate_mono hle

end Decoding

/-! ## At the turn of the year -/

/-- New Year's Day of a year. -/
def newYear (year : ℤ) : Civil.Date :=
  ⟨year, 1, 1, Civil.Date.january_mem, le_rfl,
    Civil.Date.one_le_daysInMonth year Civil.Date.january_mem⟩

/-- A nanosecond before midnight. -/
def beforeMidnight : Civil.Time :=
  ⟨23, 59, 59, 999999999, by decide, by decide, by decide, by decide⟩

theorem newYear_kept : DateKept Crates.civilWriters (newYear 2024) ∧
    DateTimeKept Crates.civilWriters (newYear 2024, beforeMidnight) :=
  ⟨((chrono_kept_iff Crates.civil_chronoLaws).1 (newYear 2024)).2 ⟨by decide, by decide⟩,
    ((chrono_kept_iff Crates.civil_chronoLaws).2 (newYear 2024, beforeMidnight) (by decide)).2
      ⟨by decide, by decide⟩⟩

/-- The year 67560 is 2024 in sixteen bits. -/
theorem newYear_67560_read_as_2024 :
    ∃ raw, encode Crates.civilWriters [] .naiveDate (newYear 67560) = (.ok .no, [.date raw]) ∧
      decode Crates.civil ⟨⟨.date raw⟩⟩ .naiveDate = .ok (newYear 2024) ∧
      newYear 67560 ≠ newYear 2024 ∧
      ¬ ∀ date, DateKept Crates.civilWriters date := by
  have hne : newYear 67560 ≠ newYear 2024 := fun h ↦ absurd (congrArg Civil.Date.year h) (by decide)
  refine ⟨dateOfYmd (newYear 67560).ymd, rfl, rfl, hne, fun hkept ↦ ?_⟩
  have hfits := (dateKept_iff Crates.civil_chronoLaws (newYear 67560)).1 (hkept _)
  exact absurd hfits.2 (by decide)

theorem newYear_agrees :
    ∃ raw : Timestamp, raw.fraction.val < 1000000000 ∧ raw.fraction.val % 1000 = 0 ∧
      encode Crates.civilWriters [] .naiveDateTime (newYear 2024, beforeMidnight) =
        (.ok .no, [.timestamp raw]) ∧
      NaiveImage Crates.civilWriters ⟨newYear 2024, beforeMidnight⟩
        (Civil.DateTime.truncate ⟨newYear 2024, beforeMidnight⟩) := by
  have hshared : Shared ⟨newYear 2024, beforeMidnight⟩ := ⟨by decide, by decide⟩
  obtain ⟨⟨raw, hnaive, -, hlt, hmod⟩, himage, -⟩ :=
    dateTimes_agree Crates.civil_chronoLaws Crates.civil_timeLaws hshared
  exact ⟨raw, hlt, hmod, hnaive _ ⟨rfl, rfl, rfl⟩, (himage _).2 rfl⟩

end MssqlOdbc
