import MssqlOdbc.Temporal.Encoded

/-!
# Structures the `time` crate is given

The decoders of `time` narrow the 16-bit fields of a structure to eight bits before they check them.
A structure is read for what it says as long as nothing is lost, or what is left is refused; else an
impossible structure passes for a date or a time it does not name.

This is one argument for all three structures (`exact_iff`): what is checked are the narrowed
fields, and no possible field needs more than eight bits.
-/

set_option autoImplicit false

namespace MssqlOdbc

/-- A reader that accepts `x` when its fields are `narrowed` reads `fields` for what they are just
if nothing was lost, or the narrowed fields are those of no value. -/
theorem exact_iff {α F : Type} {ok : α → Prop} {val : α → F} {Valid : F → Prop}
    {fields narrowed : F} (hok : ∀ x, ok x ↔ val x = narrowed)
    (hvalid : ∀ f, (∃ x, val x = f) ↔ Valid f) (hnarrow : Valid fields → narrowed = fields) :
    (((∃ x, ok x) ↔ Valid fields) ∧ ∀ x, ok x → val x = fields) ↔
      narrowed = fields ∨ ¬ Valid narrowed := by
  have haccepts : (∃ x, ok x) ↔ Valid narrowed := by
    rw [← hvalid]
    exact exists_congr hok
  constructor
  · rintro ⟨-, hsame⟩
    by_cases h : Valid narrowed
    · obtain ⟨x, hx⟩ := haccepts.2 h
      exact Or.inl (((hok x).1 hx).symm.trans (hsame x hx))
    · exact Or.inr h
  · rintro (heq | hnone)
    · rw [haccepts, heq]
      refine ⟨Iff.rfl, fun x hx ↦ ?_⟩
      rw [(hok x).1 hx, heq]
    · have hrefused : ¬ ∃ x, ok x := fun h ↦ hnone (haccepts.1 h)
      refine ⟨⟨fun h ↦ absurd h hrefused, fun h ↦ ?_⟩, fun x hx ↦ absurd ⟨x, hx⟩ hrefused⟩
      have hsame := hnarrow h
      rw [hsame] at hnone
      exact absurd h hnone

/-! ## Fields -/

def Date.fields (raw : Date) : ℤ × ℕ × ℕ :=
  (raw.year.val, raw.month.val.toNat, raw.day.val.toNat)

def Time.fields (raw : Time) : ℕ × ℕ × ℕ :=
  (raw.hour.val.toNat, raw.minute.val.toNat, raw.second.val.toNat)

def Timestamp.fields (raw : Timestamp) : (ℤ × ℕ × ℕ) × (ℕ × ℕ × ℕ) × ℕ :=
  ((raw.year.val, raw.month.val.toNat, raw.day.val.toNat),
    (raw.hour.val.toNat, raw.minute.val.toNat, raw.second.val.toNat), raw.fraction.val.toNat)

/-- The fields that are left of a structure in eight bits each. -/
def Date.narrowed (raw : Date) : ℤ × ℕ × ℕ := (raw.year.val, asU8 raw.month, asU8 raw.day)

def Time.narrowed (raw : Time) : ℕ × ℕ × ℕ := (asU8 raw.hour, asU8 raw.minute, asU8 raw.second)

def Timestamp.narrowed (raw : Timestamp) : (ℤ × ℕ × ℕ) × (ℕ × ℕ × ℕ) × ℕ :=
  ((raw.year.val, asU8 raw.month, asU8 raw.day),
    (asU8 raw.hour, asU8 raw.minute, asU8 raw.second), raw.fraction.val.toNat)

/-- A date of the calendar, in the years of the `time` crate. -/
def RealDate : ℤ × ℕ × ℕ → Prop
  | (year, month, day) => -9999 ≤ year ∧ year ≤ 9999 ∧ isCalendarDate year month day = true

/-- A time of day. -/
def RealTime (hms : ℕ × ℕ × ℕ) (nano : ℕ) : Prop := isTimeOfDay hms.1 hms.2.1 hms.2.2 nano = true

theorem asU8_eq_iff (v : U16) : asU8 v = v.val.toNat ↔ v.val ≤ 255 := by
  have hv : 0 ≤ v.val := v.property.1
  rw [asU8]
  omega

theorem asU8_of_lt {v : U16} (h : v.val.toNat < 256) : asU8 v = v.val.toNat := Nat.mod_eq_of_lt h

theorem RealDate.lt {ymd : ℤ × ℕ × ℕ} (h : RealDate ymd) : ymd.2.1 < 256 ∧ ymd.2.2 < 256 := by
  obtain ⟨civil, hcivil⟩ := isCalendarDate_iff.1 h.2.2
  have hmonth : civil.month = ymd.2.1 := congrArg (fun ymd ↦ ymd.2.1) hcivil
  have hday : civil.day = ymd.2.2 := congrArg (fun ymd ↦ ymd.2.2) hcivil
  rw [← hmonth, ← hday]
  exact ⟨civil.month_le.trans_lt (by decide), civil.day_le.trans_lt (by decide)⟩

theorem RealTime.lt {hms : ℕ × ℕ × ℕ} {nano : ℕ} (h : RealTime hms nano) :
    hms.1 < 256 ∧ hms.2.1 < 256 ∧ hms.2.2 < 256 := by
  rw [RealTime, isTimeOfDay, decide_eq_true_eq] at h
  omega

theorem Date.narrowed_of_real {raw : Date} (h : RealDate raw.fields) :
    raw.narrowed = raw.fields := by
  obtain ⟨hmonth, hday⟩ := h.lt
  rw [Date.narrowed, asU8_of_lt hmonth, asU8_of_lt hday]
  rfl

theorem Time.narrowed_of_real {raw : Time} {nano : ℕ} (h : RealTime raw.fields nano) :
    raw.narrowed = raw.fields := by
  obtain ⟨hhour, hminute, hsecond⟩ := h.lt
  rw [Time.narrowed, asU8_of_lt hhour, asU8_of_lt hminute, asU8_of_lt hsecond]
  rfl

/-- The date and the time of a timestamp. -/
def RealTimestamp (fields : (ℤ × ℕ × ℕ) × (ℕ × ℕ × ℕ) × ℕ) : Prop :=
  RealDate fields.1 ∧ RealTime fields.2.1 fields.2.2

theorem Timestamp.narrowed_of_real {raw : Timestamp} (h : RealTimestamp raw.fields) :
    raw.narrowed = raw.fields := by
  have hdate : Date.narrowed ⟨raw.year, raw.month, raw.day⟩ =
      Date.fields ⟨raw.year, raw.month, raw.day⟩ := Date.narrowed_of_real h.1
  have htime : Time.narrowed ⟨raw.hour, raw.minute, raw.second⟩ =
      Time.fields ⟨raw.hour, raw.minute, raw.second⟩ := Time.narrowed_of_real h.2
  exact Prod.ext hdate (Prod.ext htime rfl)

/-! ## What is accepted -/

section Decoding

variable {X : Crates} (W : X.Writers)

/-- The structure is decoded just if it names a real date, and then to that date. -/
def DateExact (raw : Date) : Prop :=
  ((∃ date, decode X ⟨⟨.date raw⟩⟩ .timeDate = .ok date) ↔ RealDate raw.fields) ∧
    ∀ date, decode X ⟨⟨.date raw⟩⟩ .timeDate = .ok date → W.timeYmd date = raw.fields

/-- The structure is decoded just if it names a real time, and then to that time. -/
def TimeExact (raw : Time) : Prop :=
  ((∃ time, decode X ⟨⟨.time raw⟩⟩ .timeTime = .ok time) ↔ RealTime raw.fields 0) ∧
    ∀ time : X.time.Time, decode X ⟨⟨.time raw⟩⟩ .timeTime = .ok time →
      (W.timeHms time, W.timeNanosecond time) = (raw.fields, 0)

/-- The structure is decoded just if it names a real date and a real time, and then to these. -/
def TimestampExact (raw : Timestamp) : Prop :=
  ((∃ x, decode X ⟨⟨.timestamp raw⟩⟩ .primitiveDateTime = .ok x) ↔ RealTimestamp raw.fields) ∧
    ∀ x : X.time.Date × X.time.Time, decode X ⟨⟨.timestamp raw⟩⟩ .primitiveDateTime = .ok x →
      (W.timeYmd x.1, W.timeHms x.2, W.timeNanosecond x.2) = raw.fields

variable {W} (laws : W.TimeLaws)
include laws

theorem exists_ymd_iff (ymd : ℤ × ℕ × ℕ) : (∃ date, W.timeYmd date = ymd) ↔ RealDate ymd := by
  constructor
  · rintro ⟨date, rfl⟩
    obtain ⟨civil, hcivil, hmin, hmax⟩ := laws.date date
    rw [hcivil]
    exact ⟨hmin, hmax, isCalendarDate_iff.2 ⟨civil, rfl⟩⟩
  · rintro ⟨hmin, hmax, hreal⟩
    obtain ⟨civil, hcivil⟩ := isCalendarDate_iff.1 hreal
    have hyear : civil.year = ymd.1 := congrArg Prod.fst hcivil
    obtain ⟨date, hdate⟩ := laws.date_exists civil (hyear ▸ hmin) (hyear ▸ hmax)
    exact ⟨date, hdate.trans hcivil⟩

theorem exists_hms_iff (hms : ℕ × ℕ × ℕ) (nano : ℕ) :
    (∃ time, (W.timeHms time, W.timeNanosecond time) = (hms, nano)) ↔ RealTime hms nano := by
  simp only [Prod.mk.injEq]
  constructor
  · rintro ⟨time, rfl, rfl⟩
    obtain ⟨civil, hcivil, hnano⟩ := laws.time time
    rw [hcivil, hnano]
    exact isTimeOfDay_iff.2 ⟨civil, rfl, rfl⟩
  · intro hreal
    obtain ⟨civil, hcivil, hnano⟩ := isTimeOfDay_iff.1 hreal
    obtain ⟨time, htime, htimeNano⟩ := laws.time_exists civil
    exact ⟨time, htime.trans hcivil, htimeNano.trans hnano⟩

theorem decode_timeDate_eq_ok (raw : Date) (date : X.time.Date) :
    decode X ⟨⟨.date raw⟩⟩ .timeDate = .ok date ↔ W.timeYmd date = raw.narrowed := by
  have hdecode : decode X ⟨⟨.date raw⟩⟩ .timeDate = .ok date ↔
      (do
        let month ← orMessage "ODBC: invalid month value" (X.time.monthTryFrom (asU8 raw.month))
        orMessage "ODBC: invalid date values"
          (X.time.fromCalendarDate raw.year.val month (asU8 raw.day))) = .ok date := Iff.rfl
  rw [hdecode, orMessage_bind_eq_ok, Date.narrowed, ← laws.fromCalendarDate,
    Option.bind_eq_some_iff]
  simp only [orMessage_eq_ok]

theorem decode_timeTime_eq_ok (raw : Time) (time : X.time.Time) :
    decode X ⟨⟨.time raw⟩⟩ .timeTime = .ok time ↔
      (W.timeHms time, W.timeNanosecond time) = (raw.narrowed, 0) := by
  have hdecode : decode X ⟨⟨.time raw⟩⟩ .timeTime = .ok time ↔
      X.time.fromHms (asU8 raw.hour) (asU8 raw.minute) (asU8 raw.second) = some time :=
    orMessage_eq_ok
  rw [hdecode, laws.fromHms]
  exact (Prod.mk.injEq _ _ _ _).to_iff.symm

theorem decode_primitive_eq_ok (raw : Timestamp) (x : X.time.Date × X.time.Time) :
    decode X ⟨⟨.timestamp raw⟩⟩ .primitiveDateTime = .ok x ↔
      (W.timeYmd x.1, W.timeHms x.2, W.timeNanosecond x.2) = raw.narrowed := by
  have hdecode : decode X ⟨⟨.timestamp raw⟩⟩ .primitiveDateTime = .ok x ↔
      primitiveFromTimestamp X raw = .ok x := Iff.rfl
  rw [hdecode, primitiveFromTimestamp_eq_ok laws, Timestamp.narrowed, ← Prod.mk.injEq,
    ← Prod.mk.injEq]

theorem dateExact_iff (raw : Date) : DateExact W raw ↔
    (raw.month.val ≤ 255 ∧ raw.day.val ≤ 255) ∨ ¬ RealDate raw.narrowed := by
  have hfits : raw.narrowed = raw.fields ↔ raw.month.val ≤ 255 ∧ raw.day.val ≤ 255 := by
    simp only [Date.narrowed, Date.fields, Prod.mk.injEq, true_and, asU8_eq_iff]
  rw [← hfits]
  exact exact_iff (decode_timeDate_eq_ok laws raw) (exists_ymd_iff laws) Date.narrowed_of_real

theorem timeExact_iff (raw : Time) : TimeExact W raw ↔
    (raw.hour.val ≤ 255 ∧ raw.minute.val ≤ 255 ∧ raw.second.val ≤ 255) ∨
      ¬ RealTime raw.narrowed 0 := by
  have hfits : (raw.narrowed, 0) = (raw.fields, 0) ↔
      raw.hour.val ≤ 255 ∧ raw.minute.val ≤ 255 ∧ raw.second.val ≤ 255 := by
    simp only [Time.narrowed, Time.fields, Prod.mk.injEq, and_true, asU8_eq_iff]
  rw [← hfits]
  have hnarrow : RealTime (raw.fields, 0).1 (raw.fields, 0).2 →
      (raw.narrowed, 0) = (raw.fields, 0) :=
    fun h ↦ congrArg (·, 0) (Time.narrowed_of_real h)
  have hvalid (fields : (ℕ × ℕ × ℕ) × ℕ) :
      (∃ time, (W.timeHms time, W.timeNanosecond time) = fields) ↔ RealTime fields.1 fields.2 :=
    exists_hms_iff laws fields.1 fields.2
  exact exact_iff (decode_timeTime_eq_ok laws raw) hvalid hnarrow

theorem timestampExact_iff (raw : Timestamp) : TimestampExact W raw ↔
    (raw.month.val ≤ 255 ∧ raw.day.val ≤ 255 ∧ raw.hour.val ≤ 255 ∧ raw.minute.val ≤ 255 ∧
      raw.second.val ≤ 255) ∨ ¬ RealTimestamp raw.narrowed := by
  have hfits : raw.narrowed = raw.fields ↔ raw.month.val ≤ 255 ∧ raw.day.val ≤ 255 ∧
      raw.hour.val ≤ 255 ∧ raw.minute.val ≤ 255 ∧ raw.second.val ≤ 255 := by
    simp only [Timestamp.narrowed, Timestamp.fields, Prod.mk.injEq, true_and, and_true,
      asU8_eq_iff, and_assoc]
  have hvalid (fields : (ℤ × ℕ × ℕ) × (ℕ × ℕ × ℕ) × ℕ) :
      (∃ x : X.time.Date × X.time.Time,
        (W.timeYmd x.1, W.timeHms x.2, W.timeNanosecond x.2) = fields) ↔
          RealTimestamp fields := by
    rw [RealTimestamp, ← exists_ymd_iff laws, ← exists_hms_iff laws]
    constructor
    · rintro ⟨x, rfl⟩
      exact ⟨⟨x.1, rfl⟩, x.2, rfl⟩
    · rintro ⟨⟨date, hdate⟩, time, htime⟩
      exact ⟨(date, time), Prod.ext hdate htime⟩
  rw [← hfits]
  exact exact_iff (decode_primitive_eq_ok laws raw) hvalid Timestamp.narrowed_of_real

/-- **The structures `time` reads for what they say.**  A date, a time or a timestamp is decoded
just if it is a real one, and then to its own fields, exactly when each of its 16-bit fields fits
eight bits, or when the low eight bits of its fields are no real one either. -/
theorem time_exact_iff :
    (∀ raw : Date, DateExact W raw ↔
      (raw.month.val ≤ 255 ∧ raw.day.val ≤ 255) ∨ ¬ RealDate raw.narrowed) ∧
    (∀ raw : Time, TimeExact W raw ↔
      (raw.hour.val ≤ 255 ∧ raw.minute.val ≤ 255 ∧ raw.second.val ≤ 255) ∨
        ¬ RealTime raw.narrowed 0) ∧
    ∀ raw : Timestamp, TimestampExact W raw ↔
      (raw.month.val ≤ 255 ∧ raw.day.val ≤ 255 ∧ raw.hour.val ≤ 255 ∧ raw.minute.val ≤ 255 ∧
        raw.second.val ≤ 255) ∨ ¬ RealTimestamp raw.narrowed :=
  ⟨dateExact_iff laws, timeExact_iff laws, timestampExact_iff laws⟩

end Decoding

/-- The first of January 2024 in a structure. -/
def rawNewYear : Date := ⟨⟨2024, by decide⟩, ⟨1, IntType.one_mem_u16⟩, ⟨1, IntType.one_mem_u16⟩⟩

theorem rawNewYear_exact : DateExact Crates.civilWriters rawNewYear :=
  ((time_exact_iff Crates.civil_timeLaws).1 rawNewYear).2 (Or.inl ⟨by decide, by decide⟩)

/-- The first of a month that is January in eight bits. -/
def rawMonth257 : Date := ⟨⟨2024, by decide⟩, ⟨257, by decide⟩, ⟨1, IntType.one_mem_u16⟩⟩

theorem month_257_read_as_january :
    (∃ date : CivilTimeDate, decode Crates.civil ⟨⟨.date rawMonth257⟩⟩ .timeDate = .ok date ∧
      date.val = newYear 2024) ∧ ¬ ∀ raw, DateExact Crates.civilWriters raw := by
  have hreal : RealDate rawMonth257.narrowed := ⟨by decide, by decide, by decide⟩
  refine ⟨⟨⟨newYear 2024, by decide, by decide⟩, rfl, rfl⟩, fun hexact ↦ ?_⟩
  obtain ⟨hmonth, -⟩ | hnone :=
    (dateExact_iff Crates.civil_timeLaws rawMonth257).1 (hexact rawMonth257)
  · exact absurd hmonth (by decide)
  · exact hnone hreal

end MssqlOdbc
