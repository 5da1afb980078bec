import Mathlib.Algebra.Order.Ring.Int
import Mathlib.Data.Int.Order.Basic
import Mathlib.Data.List.GetD
import Mathlib.Tactic.Ring

/-!
# The civil calendar

Dates of the proleptic Gregorian calendar, times of day to the nanosecond, and the instants they
stand for.  A `Civil.Date` and a `Civil.Time` carry the proof that their fields are possible, so
that a date such as February 30 cannot be built.

`DateTime.instant` counts nanoseconds, which makes a line of the calendar: the day after a date
begins where the date ends, over the ends of months and years (`Date.number_next`), and cutting a
date-time to microseconds rounds its instant down (`DateTime.instant_truncate`), from which
everything else about the cut follows.
-/

set_option autoImplicit false

namespace Civil

/-! ## Dates -/

def IsLeap (year : ℤ) : Prop := year % 4 = 0 ∧ (year % 100 ≠ 0 ∨ year % 400 = 0)

instance (year : ℤ) : Decidable (IsLeap year) := inferInstanceAs (Decidable (_ ∧ _))

/-- The length of a month, or zero if there is no such month. -/
def daysInMonth (year : ℤ) (month : ℕ) : ℕ :=
  [31, if IsLeap year then 29 else 28, 31, 30, 31, 30, 31, 31, 30, 31, 30, 31].getD (month - 1) 0

/-- A date of the calendar. -/
@[ext] structure Date where
  year : ℤ
  month : ℕ
  day : ℕ
  month_mem : 1 ≤ month ∧ month ≤ 12
  day_mem : 1 ≤ day ∧ day ≤ daysInMonth year month
deriving DecidableEq

namespace Date

/-- The fields of a date. -/
def ymd (date : Date) : ℤ × ℕ × ℕ := (date.year, date.month, date.day)

/-- The date with these fields. -/
def ofYmd? (year : ℤ) (month day : ℕ) : Option Date :=
  if h : (1 ≤ month ∧ month ≤ 12) ∧ 1 ≤ day ∧ day ≤ daysInMonth year month then
    some ⟨year, month, day, h.1, h.2⟩
  else none

theorem ymd_inj {date date' : Date} (h : date.ymd = date'.ymd) : date = date' := by
  simp only [ymd, Prod.mk.injEq] at h
  exact Date.ext h.1 h.2.1 h.2.2

theorem ofYmd?_eq_some {year : ℤ} {month day : ℕ} {date : Date} :
    ofYmd? year month day = some date ↔ date.ymd = (year, month, day) := by
  rw [ofYmd?]
  constructor
  · intro h
    split at h
    · cases h
      rfl
    · cases h
  · intro h
    simp only [ymd, Prod.mk.injEq] at h
    obtain ⟨rfl, rfl, rfl⟩ := h
    rw [dif_pos ⟨date.month_mem, date.day_mem⟩]

/-- The number of days before a year. -/
def beforeYear (year : ℤ) : ℤ :=
  365 * (year - 1) + (year - 1) / 4 - (year - 1) / 100 + (year - 1) / 400

/-- The number of days in the first `months` months of a year. -/
def beforeMonth (year : ℤ) : ℕ → ℕ
  | 0 => 0
  | months + 1 => beforeMonth year months + daysInMonth year (months + 1)

/-- The number of a date, counted from the first of January of the year one. -/
def number (date : Date) : ℤ :=
  beforeYear date.year + (beforeMonth date.year (date.month - 1) + date.day : ℕ)

theorem daysInMonth_mem (year : ℤ) {month : ℕ} (h : 1 ≤ month ∧ month ≤ 12) :
    28 ≤ daysInMonth year month ∧ daysInMonth year month ≤ 31 := by
  have hall : ∀ days ∈ [31, if IsLeap year then 29 else 28, 31, 30, 31, 30, 31, 31, 30, 31, 30, 31],
      28 ≤ days ∧ days ≤ 31 := by
    by_cases hleap : IsLeap year
    · rw [if_pos hleap]
      decide
    · rw [if_neg hleap]
      decide
  have hmonth : month - 1 < 12 := by omega
  rw [daysInMonth, List.getD_eq_getElem _ _ hmonth]
  exact hall _ (List.getElem_mem _)

theorem month_le (date : Date) : date.month ≤ 12 := date.month_mem.2

theorem day_le (date : Date) : date.day ≤ 31 :=
  date.day_mem.2.trans (daysInMonth_mem date.year date.month_mem).2

theorem one_le_daysInMonth (year : ℤ) {month : ℕ} (h : 1 ≤ month ∧ month ≤ 12) :
    1 ≤ daysInMonth year month :=
  (daysInMonth_mem year h).1.trans' (by decide)

theorem beforeMonth_twelve (year : ℤ) :
    beforeMonth year 12 = if IsLeap year then 366 else 365 := by
  simp only [beforeMonth, daysInMonth]
  split <;> rfl

theorem beforeYear_succ (year : ℤ) :
    beforeYear (year + 1) = beforeYear year + beforeMonth year 12 := by
  rw [beforeMonth_twelve, beforeYear, beforeYear]
  by_cases hleap : IsLeap year
  · rw [if_pos hleap]
    rw [IsLeap] at hleap
    omega
  · rw [if_neg hleap]
    rw [IsLeap] at hleap
    omega

theorem january_mem : 1 ≤ 1 ∧ 1 ≤ 12 := by decide

/-- The day after a date. -/
def next (date : Date) : Date :=
  if hday : date.day < daysInMonth date.year date.month then
    ⟨date.year, date.month, date.day + 1, date.month_mem, Nat.le_add_left 1 _, hday⟩
  else if hmonth : date.month < 12 then
    ⟨date.year, date.month + 1, 1, ⟨Nat.le_add_left 1 _, hmonth⟩, le_rfl,
      one_le_daysInMonth date.year ⟨Nat.le_add_left 1 _, hmonth⟩⟩
  else ⟨date.year + 1, 1, 1, january_mem, le_rfl, one_le_daysInMonth _ january_mem⟩

/-- **The next day has the next number**, at the end of a month and of a year too. -/
theorem number_next (date : Date) : date.next.number = date.number + 1 := by
  have hmonth := date.month_mem
  have hday := date.day_mem
  rw [next]
  split
  · simp only [number]
    push_cast
    ring
  · have hlast : date.day = daysInMonth date.year date.month := by omega
    have hstep : beforeMonth date.year date.month =
        beforeMonth date.year (date.month - 1) + date.day := by
      obtain ⟨months, hmonths⟩ : ∃ months, date.month = months + 1 :=
        ⟨date.month - 1, by omega⟩
      rw [hlast, hmonths, Nat.add_sub_cancel, beforeMonth]
    split
    · simp only [number, Nat.add_sub_cancel, hstep]
      push_cast
      ring
    · have htwelve : date.month = 12 := by omega
      rw [htwelve] at hstep
      have hnone : beforeMonth (date.year + 1) 0 = 0 := rfl
      simp only [number, beforeYear_succ, htwelve]
      rw [hstep, Nat.sub_self, hnone]
      push_cast
      ring

end Date

/-! ## Times of day -/

/-- A time of day. -/
@[ext] structure Time where
  hour : ℕ
  minute : ℕ
  second : ℕ
  nano : ℕ
  hour_lt : hour < 24
  minute_lt : minute < 60
  second_lt : second < 60
  nano_lt : nano < 1000000000
deriving DecidableEq

namespace Time

/-- The fields of a time, without the nanoseconds. -/
def hms (time : Time) : ℕ × ℕ × ℕ := (time.hour, time.minute, time.second)

theorem eq_of_fields {time time' : Time} (h : time.hms = time'.hms)
    (hnano : time.nano = time'.nano) : time = time' := by
  simp only [hms, Prod.mk.injEq] at h
  exact Time.ext h.1 h.2.1 h.2.2 hnano

/-- The time with these fields. -/
def ofHms? (hour minute second nano : ℕ) : Option Time :=
  if h : (hour < 24 ∧ minute < 60) ∧ second < 60 ∧ nano < 1000000000 then
    some ⟨hour, minute, second, nano, h.1.1, h.1.2, h.2.1, h.2.2⟩
  else none

theorem ofHms?_eq_some {hour minute second nano : ℕ} {time : Time} :
    ofHms? hour minute second nano = some time ↔
      time.hms = (hour, minute, second) ∧ time.nano = nano := by
  rw [ofHms?]
  constructor
  · intro h
    split at h
    · cases h
      exact ⟨rfl, rfl⟩
    · cases h
  · rintro ⟨h, rfl⟩
    simp only [hms, Prod.mk.injEq] at h
    obtain ⟨rfl, rfl, rfl⟩ := h
    rw [dif_pos ⟨⟨time.hour_lt, time.minute_lt⟩, time.second_lt, time.nano_lt⟩]

/-- The time cut to microseconds. -/
def truncate (time : Time) : Time :=
  { time with
    nano := time.nano / 1000 * 1000
    nano_lt := (Nat.div_mul_le_self time.nano 1000).trans_lt time.nano_lt }

/-- The seconds since midnight. -/
def seconds (time : Time) : ℕ := (time.hour * 60 + time.minute) * 60 + time.second

end Time

/-! ## Date-times -/

/-- A date and a time of day. -/
@[ext] structure DateTime where
  date : Date
  time : Time
deriving DecidableEq

namespace DateTime

theorem eq_of_fields {x x' : DateTime} (hdate : x.date.ymd = x'.date.ymd)
    (htime : x.time.hms = x'.time.hms) (hnano : x.time.nano = x'.time.nano) : x = x' :=
  DateTime.ext (Date.ymd_inj hdate) (Time.eq_of_fields htime hnano)

/-- Nanoseconds since the beginning of the year one. -/
def instant (x : DateTime) : ℤ :=
  (x.date.number * 86400 + x.time.seconds) * 1000000000 + x.time.nano

/-- The date-time cut to microseconds. -/
def truncate (x : DateTime) : DateTime := ⟨x.date, x.time.truncate⟩

/-- Cutting to microseconds rounds the instant down. -/
theorem instant_truncate (x : DateTime) : x.truncate.instant = x.instant / 1000 * 1000 := by
  simp only [instant, truncate, Time.truncate, Time.seconds]
  push_cast
  omega

theorem truncate_truncate (x : DateTime) : x.truncate.truncate = x.truncate := by
  refine DateTime.ext rfl (Time.ext rfl rfl rfl ?_)
  simp only [truncate, Time.truncate]
  omega

theorem truncate_le (x : DateTime) : x.truncate.instant ≤ x.instant := by
  rw [instant_truncate]
  omega

theorem lt_truncate_add (x : DateTime) : x.instant < x.truncate.instant + 1000 := by
  rw [instant_truncate]
  omega

theorem truncate_mono {x x' : DateTime} (h : x.instant ≤ x'.instant) :
    x.truncate.instant ≤ x'.truncate.instant := by
  rw [instant_truncate, instant_truncate]
  omega

/-- The date-time an hour later. -/
def nextHour (x : DateTime) : DateTime :=
  if h : x.time.hour + 1 < 24 then ⟨x.date, { x.time with hour := x.time.hour + 1, hour_lt := h }⟩
  else ⟨x.date.next, { x.time with hour := 0, hour_lt := by decide }⟩

theorem instant_nextHour (x : DateTime) :
    x.nextHour.instant = x.instant + 3600 * 1000000000 := by
  have hhour := x.time.hour_lt
  rw [nextHour]
  split
  · simp only [instant, Time.seconds]
    push_cast
    ring
  · have hlast : x.time.hour = 23 := by omega
    simp only [instant, Time.seconds, Date.number_next, hlast]
    push_cast
    ring

end DateTime

end Civil
