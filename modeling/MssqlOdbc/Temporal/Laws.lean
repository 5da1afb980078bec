import MssqlOdbc.Arguments
import MssqlOdbc.Lib.Civil

/-!
# The date crates and the calendar

What `chrono` and `time` promise about their dates and times, in terms of the civil calendar: a
value has the fields of a date or of a time of day, it is made from exactly these fields, and fields
that are impossible make no value.  `chrono` has dates from the year -262143 to 262142 and times in
a leap second, of which nothing is promised here; the dates of `time` run from -9999 to 9999.

`Crates.civil` is a pair of crates that keeps these promises, with the calendar itself for the
values.  Its local time zone is an hour ahead of UTC.
-/

set_option autoImplicit false

namespace MssqlOdbc

theorem isCalendarDate_iff {year : ℤ} {month day : ℕ} : isCalendarDate year month day = true ↔
    ∃ date : Civil.Date, date.ymd = (year, month, day) := by
  have hdays : isCalendarDate year month day = decide (1 ≤ month ∧ month ≤ 12 ∧ 1 ≤ day ∧
      day ≤ Civil.daysInMonth year month) := by
    simp only [isCalendarDate, Civil.daysInMonth, Civil.IsLeap, decide_eq_true_eq]
    congr
  rw [hdays, decide_eq_true_eq]
  constructor
  · rintro ⟨hmonth, hmonth', hday⟩
    exact ⟨⟨year, month, day, ⟨hmonth, hmonth'⟩, hday⟩, rfl⟩
  · rintro ⟨date, hdate⟩
    cases hdate
    exact ⟨date.month_mem.1, date.month_mem.2, date.day_mem⟩

theorem isTimeOfDay_iff {hour minute second nano : ℕ} :
    isTimeOfDay hour minute second nano = true ↔
      ∃ time : Civil.Time, time.hms = (hour, minute, second) ∧ time.nano = nano := by
  rw [isTimeOfDay, decide_eq_true_eq]
  constructor
  · rintro ⟨hhour, hminute, hsecond, hnano⟩
    exact ⟨⟨hour, minute, second, nano, hhour, hminute, hsecond, hnano⟩, rfl, rfl⟩
  · rintro ⟨time, htime, rfl⟩
    cases htime
    exact ⟨time.hour_lt, time.minute_lt, time.second_lt, time.nano_lt⟩

/-! ## `chrono` -/

namespace Crates.Writers

variable {X : Crates} (W : X.Writers)

/-- The promises of `chrono` about its dates and times. -/
structure ChronoLaws : Prop where
  date : ∀ date, ∃ civil : Civil.Date, W.naiveYmd date = civil.ymd
  date_exists : ∀ civil : Civil.Date, -262143 ≤ civil.year → civil.year ≤ 262142 →
    ∃ date, W.naiveYmd date = civil.ymd
  fromYmdOpt : ∀ year month day date, X.chrono.fromYmdOpt year month day = some date ↔
    W.naiveYmd date = (year, month, day)
  time : ∀ time, W.naiveNanosecond time < 1000000000 → ∃ civil : Civil.Time,
    W.naiveHms time = civil.hms ∧ W.naiveNanosecond time = civil.nano
  time_exists : ∀ civil : Civil.Time, ∃ time,
    W.naiveHms time = civil.hms ∧ W.naiveNanosecond time = civil.nano
  fromHmsNanoOpt : ∀ hour minute second nano time, nano < 1000000000 →
    (X.chrono.fromHmsNanoOpt hour minute second nano = some time ↔
      W.naiveHms time = (hour, minute, second) ∧ W.naiveNanosecond time = nano)

/-- The `chrono` value is this date-time, and not in a leap second. -/
def NaiveIs (naive : X.chrono.NaiveDate × X.chrono.NaiveTime) (x : Civil.DateTime) : Prop :=
  W.naiveYmd naive.1 = x.date.ymd ∧ W.naiveHms naive.2 = x.time.hms ∧
    W.naiveNanosecond naive.2 = x.time.nano

variable {W}

theorem NaiveIs.unique {naive : X.chrono.NaiveDate × X.chrono.NaiveTime} {x x' : Civil.DateTime}
    (h : W.NaiveIs naive x) (h' : W.NaiveIs naive x') : x = x' := by
  obtain ⟨hdate, hhms, hnano⟩ := h
  obtain ⟨hdate', hhms', hnano'⟩ := h'
  exact Civil.DateTime.eq_of_fields (hdate.symm.trans hdate') (hhms.symm.trans hhms')
    (hnano.symm.trans hnano')

theorem ChronoLaws.naiveIs (laws : W.ChronoLaws) (naive : X.chrono.NaiveDate × X.chrono.NaiveTime)
    (h : W.naiveNanosecond naive.2 < 1000000000) : ∃ x, W.NaiveIs naive x := by
  obtain ⟨date, hdate⟩ := laws.date naive.1
  obtain ⟨time, hhms, hnano⟩ := laws.time naive.2 h
  exact ⟨⟨date, time⟩, hdate, hhms, hnano⟩

theorem ChronoLaws.naiveIs_exists (laws : W.ChronoLaws) {x : Civil.DateTime}
    (h : -262143 ≤ x.date.year) (h' : x.date.year ≤ 262142) : ∃ naive, W.NaiveIs naive x := by
  obtain ⟨date, hdate⟩ := laws.date_exists x.date h h'
  obtain ⟨time, htime⟩ := laws.time_exists x.time
  exact ⟨(date, time), hdate, htime⟩

/-! ## `time` -/

variable (W) in
/-- The promises of `time` about its dates and times. -/
structure TimeLaws : Prop where
  date : ∀ date, ∃ civil : Civil.Date,
    W.timeYmd date = civil.ymd ∧ -9999 ≤ civil.year ∧ civil.year ≤ 9999
  date_exists : ∀ civil : Civil.Date, -9999 ≤ civil.year → civil.year ≤ 9999 →
    ∃ date, W.timeYmd date = civil.ymd
  fromCalendarDate : ∀ year month day date,
    (X.time.monthTryFrom month).bind (fun month ↦ X.time.fromCalendarDate year month day) =
      some date ↔ W.timeYmd date = (year, month, day)
  time : ∀ time, ∃ civil : Civil.Time,
    W.timeHms time = civil.hms ∧ W.timeNanosecond time = civil.nano
  time_exists : ∀ civil : Civil.Time, ∃ time,
    W.timeHms time = civil.hms ∧ W.timeNanosecond time = civil.nano
  fromHms : ∀ hour minute second time, X.time.fromHms hour minute second = some time ↔
    W.timeHms time = (hour, minute, second) ∧ W.timeNanosecond time = 0
  fromHmsNano : ∀ hour minute second nano time,
    X.time.fromHmsNano hour minute second nano = some time ↔
      W.timeHms time = (hour, minute, second) ∧ W.timeNanosecond time = nano

variable (W) in
/-- The value of the `time` crate is this date-time. -/
def PrimitiveIs (primitive : X.time.Date × X.time.Time) (x : Civil.DateTime) : Prop :=
  W.timeYmd primitive.1 = x.date.ymd ∧ W.timeHms primitive.2 = x.time.hms ∧
    W.timeNanosecond primitive.2 = x.time.nano

theorem PrimitiveIs.unique {primitive : X.time.Date × X.time.Time} {x x' : Civil.DateTime}
    (h : W.PrimitiveIs primitive x) (h' : W.PrimitiveIs primitive x') : x = x' := by
  obtain ⟨hdate, hhms, hnano⟩ := h
  obtain ⟨hdate', hhms', hnano'⟩ := h'
  exact Civil.DateTime.eq_of_fields (hdate.symm.trans hdate') (hhms.symm.trans hhms')
    (hnano.symm.trans hnano')

theorem TimeLaws.primitiveIs_exists (laws : W.TimeLaws) {x : Civil.DateTime}
    (h : -9999 ≤ x.date.year) (h' : x.date.year ≤ 9999) :
    ∃ primitive, W.PrimitiveIs primitive x := by
  obtain ⟨date, hdate⟩ := laws.date_exists x.date h h'
  obtain ⟨time, htime⟩ := laws.time_exists x.time
  exact ⟨(date, time), hdate, htime⟩

end Crates.Writers

/-! ## Crates of the calendar itself -/

/-- A date as `YYYY-MM-DD`. -/
def isoDate (text : List Char) : Option Civil.Date :=
  match text with
  | [y₁, y₂, y₃, y₄, '-', m₁, m₂, '-', d₁, d₂] => do
    Civil.Date.ofYmd? (← parseDigits [y₁, y₂, y₃, y₄]) (← parseDigits [m₁, m₂])
      (← parseDigits [d₁, d₂])
  | _ => none

/-- A time as `HH:MM:SS`. -/
def isoTime (text : List Char) : Option Civil.Time :=
  match text with
  | [h₁, h₂, ':', m₁, m₂, ':', s₁, s₂] => do
    Civil.Time.ofHms? (← parseDigits [h₁, h₂]) (← parseDigits [m₁, m₂]) (← parseDigits [s₁, s₂]) 0
  | _ => none

/-- A date-time of UTC, to the second. -/
def isoUtc (text : List Char) : Option Civil.DateTime := do
  let date ← isoDate (text.take 10)
  let time ← isoTime ((text.drop 11).take 8)
  if text.drop 19 = "+00:00".toList then some ⟨date, time⟩ else none

def padded (width n : ℕ) : List Char := (Nat.toDigits 10 n).leftpad width '0'

/-- A date-time of UTC as text, to the second. -/
def utcText (x : Civil.DateTime) : String :=
  String.ofList ((if x.date.year < 0 then ['-'] else []) ++ padded 4 x.date.year.natAbs ++
    '-' :: padded 2 x.date.month ++ '-' :: padded 2 x.date.day ++
    'T' :: padded 2 x.time.hour ++ ':' :: padded 2 x.time.minute ++
    ':' :: padded 2 x.time.second ++ "+00:00".toList)

/-- The dates of the years that are written with at most four digits. -/
abbrev CivilTimeDate : Type := {date : Civil.Date // -9999 ≤ date.year ∧ date.year ≤ 9999}

def CivilTimeDate.of? (date : Civil.Date) : Option CivilTimeDate :=
  if h : -9999 ≤ date.year ∧ date.year ≤ 9999 then some ⟨date, h⟩ else none

theorem CivilTimeDate.of?_eq_some {civil : Civil.Date} {date : CivilTimeDate} :
    of? civil = some date ↔ civil = date.val := by
  rw [of?]
  constructor
  · intro h
    split at h
    · cases h
      rfl
    · cases h
  · rintro rfl
    exact dif_pos date.property

/-- The month is checked on its own, and once more as a part of the date. -/
theorem CivilTimeDate.checked_eq_some {year : ℤ} {month day : ℕ} {date : CivilTimeDate} :
    (if 1 ≤ month ∧ month ≤ 12 then some month else none).bind
        (fun month ↦ (Civil.Date.ofYmd? year month day).bind of?) = some date ↔
      date.val.ymd = (year, month, day) := by
  constructor
  · intro h
    split at h
    · rw [Option.bind_some] at h
      obtain ⟨civil, hcivil, hof⟩ := Option.bind_eq_some_iff.1 h
      rw [of?_eq_some.1 hof] at hcivil
      exact Civil.Date.ofYmd?_eq_some.1 hcivil
    · cases h
  · intro h
    have hmem : 1 ≤ month ∧ month ≤ 12 := by
      cases h
      exact date.val.month_mem
    rw [if_pos hmem, Option.bind_some, Civil.Date.ofYmd?_eq_some.2 h, Option.bind_some]
    exact of?_eq_some.2 rfl

/-- Crates whose dates and times are those of the calendar.  A local date-time is its wall clock
with the offset of the zone in seconds; the zone is an hour ahead of UTC. -/
def Crates.civil : Crates :=
  { Crates.sample with
    chrono := { Crates.sample.chrono with
      NaiveDate := Civil.Date
      NaiveTime := Civil.Time
      Utc := Civil.DateTime
      Fixed := Civil.DateTime
      Local := Civil.DateTime × ℤ
      fromYmdOpt := Civil.Date.ofYmd?
      fromHmsOpt := fun hour minute second ↦ Civil.Time.ofHms? hour minute second 0
      fromHmsNanoOpt := Civil.Time.ofHms?
      parseDate := fun text ↦ isoDate text.toList
      parseTime := fun text ↦ (isoTime text.toList).elim (.error "invalid") .ok
      parseDateTime := fun _ ↦ .error "invalid"
      parseDateTimeAs := fun _ _ ↦ none
      parseUtc := fun text ↦ isoUtc text.toList
      parseFixed := fun text ↦ isoUtc text.toList
      parseFixedAs := fun _ _ ↦ none
      fromNaiveUtc := fun (date, time) ↦ ⟨date, time⟩
      toUtc := id
      fixedOffset := id
      withTimezoneLocal := fun x ↦ (x.nextHour, 3600) }
    time := { Crates.sample.time with
      Date := CivilTimeDate
      Time := Civil.Time
      OffsetDateTime := Civil.DateTime
      fromCalendarDate := fun year month day ↦
        (Civil.Date.ofYmd? year month day).bind CivilTimeDate.of?
      fromHms := fun hour minute second ↦ Civil.Time.ofHms? hour minute second 0
      fromHmsNano := Civil.Time.ofHms?
      parseIsoDate := fun text ↦ (isoDate text.toList).bind CivilTimeDate.of?
      parseIsoTime := fun text ↦ isoTime text.toList
      parseTimeAs := fun _ _ ↦ .error "invalid"
      parsePrimitiveAs := fun _ _ ↦ .error "invalid"
      parseIsoPrimitive := fun _ ↦ none
      parseRfc3339 := fun _ ↦ none
      parseOffsetAs := fun _ _ ↦ none
      parseIsoOffset := fun _ ↦ none
      assumeUtc := fun (date, time) ↦ ⟨date.val, time⟩ } }

def Crates.civilWriters : Crates.civil.Writers where
  naiveYmd := Civil.Date.ymd
  naiveHms := Civil.Time.hms
  naiveNanosecond := Civil.Time.nano
  utcRfc3339 := utcText
  fixedRfc3339 := utcText
  naiveLocal := fun (x, _) ↦ (x.date, x.time)
  timeYmd := fun date ↦ date.val.ymd
  timeHms := Civil.Time.hms
  timeNanosecond := Civil.Time.nano
  offsetRfc3339 := fun x ↦ .ok (utcText x)
  decimalToString := fun n : ℤ ↦ toString n
  bigDecimalToString := fun n : ℤ ↦ toString n
  jsonToString := fun n : ℤ ↦ .ok (toString n)
  writeWkb := .ok

theorem Crates.civil_chronoLaws : Crates.civilWriters.ChronoLaws where
  date date := ⟨date, rfl⟩
  date_exists civil _ _ := ⟨civil, rfl⟩
  fromYmdOpt _ _ _ _ := Civil.Date.ofYmd?_eq_some
  time time _ := ⟨time, rfl, rfl⟩
  time_exists civil := ⟨civil, rfl, rfl⟩
  fromHmsNanoOpt _ _ _ _ _ _ := Civil.Time.ofHms?_eq_some

theorem Crates.civil_timeLaws : Crates.civilWriters.TimeLaws where
  date date := ⟨date.val, rfl, date.property⟩
  date_exists civil h h' := ⟨⟨civil, h, h'⟩, rfl⟩
  fromCalendarDate _ _ _ _ := CivilTimeDate.checked_eq_some
  time time := ⟨time, rfl, rfl⟩
  time_exists civil := ⟨civil, rfl, rfl⟩
  fromHms _ _ _ _ := Civil.Time.ofHms?_eq_some
  fromHmsNano _ _ _ _ _ := Civil.Time.ofHms?_eq_some

end MssqlOdbc
