import MssqlOdbc.Temporal.Encoded

/-!
# Date-times with a zone

A `DateTime<Local>` is encoded by its wall clock and decoded as if the structure held UTC.  The two
differ by the offset of the zone, so that it reads back as another instant unless the offset is
zero (`zones_agree_iff`).  `DateTime<Utc>` and `DateTime<FixedOffset>` go through RFC 3339 texts,
which carry their offset.
-/

set_option autoImplicit false

namespace MssqlOdbc

/-! ## Instants -/

/-- The instants of the date-times of `chrono`, in nanoseconds, and the offset of a local one from
UTC, in seconds. -/
structure Zones (X : Crates) where
  utc : X.chrono.Utc → ℤ
  fixed : X.chrono.Fixed → ℤ
  localInstant : X.chrono.Local → ℤ
  offset : X.chrono.Local → ℤ

section Zoned

variable {X : Crates} (Z : Zones X) (W : X.Writers)

/-- The promises of `chrono`: the wall clock is ahead of UTC by the offset, and a change of the zone
is none of the instant. -/
structure Zones.Laws : Prop where
  naiveLocal : ∀ datetime x, W.NaiveIs (W.naiveLocal datetime) x →
    x.instant = Z.localInstant datetime + Z.offset datetime * 1000000000
  fromNaiveUtc : ∀ naive x, W.NaiveIs naive x → Z.utc (X.chrono.fromNaiveUtc naive) = x.instant
  withTimezoneLocal : ∀ datetime,
    Z.localInstant (X.chrono.withTimezoneLocal datetime) = Z.utc datetime

/-- The RFC 3339 text of the date-time is parsed as the same instant, and nothing is trimmed off. -/
structure Zones.UtcText (datetime : X.chrono.Utc) : Prop where
  parse : ∃ datetime', X.chrono.parseUtc (W.utcRfc3339 datetime) = some datetime' ∧
    Z.utc datetime' = Z.utc datetime
  trimmed : (⟨⟨.text (W.utcRfc3339 datetime)⟩⟩ : MssqlValueRef).trimmedText =
    some (W.utcRfc3339 datetime)

/-- The RFC 3339 text of the date-time is parsed as the same instant, and nothing is trimmed off. -/
structure Zones.FixedText (datetime : X.chrono.Fixed) : Prop where
  parse : ∃ datetime', X.chrono.parseFixed (W.fixedRfc3339 datetime) = some datetime' ∧
    Z.fixed datetime' = Z.fixed datetime
  trimmed : (⟨⟨.text (W.fixedRfc3339 datetime)⟩⟩ : MssqlValueRef).trimmedText =
    some (W.fixedRfc3339 datetime)

/-! ## Reading back -/

/-- What is pushed for the date-time is decoded as the instant `n`, cut to microseconds. -/
def LocalReadsAs (datetime : X.chrono.Local) (n : ℤ) : Prop :=
  ∃ raw datetime', encode W [] .dateTimeLocal datetime = (.ok .no, [.timestamp raw]) ∧
    decode X ⟨⟨.timestamp raw⟩⟩ .dateTimeLocal = .ok datetime' ∧ Z.localInstant datetime' = n

def UtcReadsAs (datetime : X.chrono.Utc) (n : ℤ) : Prop :=
  ∃ text datetime', encode W [] .dateTimeUtc datetime = (.ok .no, [.text text]) ∧
    decode X ⟨⟨.text text⟩⟩ .dateTimeUtc = .ok datetime' ∧ Z.utc datetime' / 1000 * 1000 = n

def FixedReadsAs (datetime : X.chrono.Fixed) (n : ℤ) : Prop :=
  ∃ text datetime', encode W [] .dateTimeFixed datetime = (.ok .no, [.text text]) ∧
    decode X ⟨⟨.text text⟩⟩ .dateTimeFixed = .ok datetime' ∧ Z.fixed datetime' / 1000 * 1000 = n

variable {Z W}

theorem utcReadsAs {datetime : X.chrono.Utc} (h : Z.UtcText W datetime) :
    UtcReadsAs Z W datetime (Z.utc datetime / 1000 * 1000) := by
  obtain ⟨datetime', hparse, hinstant⟩ := h.parse
  refine ⟨W.utcRfc3339 datetime, datetime', rfl, ?_, by rw [hinstant]⟩
  show decodeDateTimeUtc X _ = _
  rw [decodeDateTimeUtc, decodeDateTime, h.trimmed]
  dsimp only [MssqlValueRef.rawTimestamp]
  rw [hparse]
  rfl

theorem fixedReadsAs {datetime : X.chrono.Fixed} (h : Z.FixedText W datetime) :
    FixedReadsAs Z W datetime (Z.fixed datetime / 1000 * 1000) := by
  obtain ⟨datetime', hparse, hinstant⟩ := h.parse
  refine ⟨W.fixedRfc3339 datetime, datetime', rfl, ?_, by rw [hinstant]⟩
  show decodeDateTimeFixed X _ = _
  rw [decodeDateTimeFixed, decodeDateTime, h.trimmed]
  dsimp only [MssqlValueRef.rawTimestamp]
  rw [hparse]
  rfl

/-- A local date-time is read back as its wall clock in UTC. -/
theorem localReadsAs_iff (hchrono : W.ChronoLaws) (hzones : Z.Laws W)
    (datetime : X.chrono.Local) {x : Civil.DateTime} (hx : W.NaiveIs (W.naiveLocal datetime) x)
    (hyear : FitsI16 x.date.year) (n : ℤ) :
    LocalReadsAs Z W datetime n ↔ n = x.truncate.instant := by
  have hencode : encode W [] .dateTimeLocal datetime = (.ok .no,
      [.timestamp (timestampOf (dateOfYmd x.date.ymd) (timeOfHms x.time.hms) x.time.nano)]) :=
    encode_naiveDateTime hx
  have hinstant (naive) (h : W.NaiveIs naive x.truncate) : Z.localInstant
      (X.chrono.withTimezoneLocal (X.chrono.fromNaiveUtc naive)) = x.truncate.instant := by
    rw [hzones.withTimezoneLocal, hzones.fromNaiveUtc naive _ h]
  have hdecode (raw : Timestamp) : decode X ⟨⟨.timestamp raw⟩⟩ .dateTimeLocal =
      (naiveFromTimestamp X raw).map fun naive ↦
        X.chrono.withTimezoneLocal (X.chrono.fromNaiveUtc naive) := rfl
  rw [LocalReadsAs, hencode]
  constructor
  · rintro ⟨raw, datetime', hpush, hread, rfl⟩
    cases hpush
    rw [hdecode] at hread
    cases hnaive : naiveFromTimestamp X
        (timestampOf (dateOfYmd x.date.ymd) (timeOfHms x.time.hms) x.time.nano) with
    | error e => rw [hnaive] at hread; cases hread
    | ok naive =>
      rw [hnaive] at hread
      cases hread
      exact hinstant naive ((naiveFromTimestamp_of_fits hchrono (timestampOf_encodes x) hyear
        naive).1 hnaive)
  · rintro rfl
    have hmin : -262143 ≤ x.truncate.date.year := hyear.1.trans' (by decide)
    have hmax : x.truncate.date.year ≤ 262142 := hyear.2.trans (by decide)
    obtain ⟨naive, hnaive⟩ := hchrono.naiveIs_exists hmin hmax
    have hread :=
      (naiveFromTimestamp_of_fits hchrono (timestampOf_encodes x) hyear naive).2 hnaive
    refine ⟨_, _, rfl, ?_, hinstant naive hnaive⟩
    rw [hdecode, hread]
    rfl

/-- **Date-times with a zone read back as the same instant in UTC only.**  Whatever else denotes the
instant of a local date-time, the three read back as that instant, cut to microseconds, exactly when
the zone has no offset at it. -/
theorem zones_agree_iff (hchrono : W.ChronoLaws) (hzones : Z.Laws W) (datetime : X.chrono.Local)
    (hyear : FitsI16 (W.naiveYmd (W.naiveLocal datetime).1).1)
    (hleap : W.naiveNanosecond (W.naiveLocal datetime).2 < 1000000000) {utc : X.chrono.Utc}
    (hutc : Z.UtcText W utc) (hutcSame : Z.utc utc = Z.localInstant datetime)
    {fixed : X.chrono.Fixed} (hfixed : Z.FixedText W fixed)
    (hfixedSame : Z.fixed fixed = Z.localInstant datetime) :
    (LocalReadsAs Z W datetime (Z.localInstant datetime / 1000 * 1000) ∧
      UtcReadsAs Z W utc (Z.localInstant datetime / 1000 * 1000) ∧
      FixedReadsAs Z W fixed (Z.localInstant datetime / 1000 * 1000)) ↔
    Z.offset datetime = 0 := by
  obtain ⟨x, hx⟩ := hchrono.naiveIs (W.naiveLocal datetime) hleap
  have hfits : FitsI16 x.date.year := by
    rw [hx.1] at hyear
    exact hyear
  have hwall := hzones.naiveLocal datetime x hx
  have hothers := And.intro (utcReadsAs hutc) (fixedReadsAs hfixed)
  rw [hutcSame, hfixedSame] at hothers
  rw [and_iff_left hothers, localReadsAs_iff hchrono hzones datetime hx hfits,
    Civil.DateTime.instant_truncate, hwall]
  omega

end Zoned

/-! ## An hour ahead -/

def Zones.civil : Zones Crates.civil where
  utc := Civil.DateTime.instant
  fixed := Civil.DateTime.instant
  localInstant := fun (x, offset) ↦ x.instant - offset * 1000000000
  offset := Prod.snd

theorem Zones.civil_laws : Zones.civil.Laws Crates.civilWriters where
  naiveLocal := by
    rintro ⟨wall, offset⟩ x hx
    obtain rfl : x = wall := hx.unique ⟨rfl, rfl, rfl⟩
    show x.instant = x.instant - offset * 1000000000 + offset * 1000000000
    omega
  fromNaiveUtc := by
    rintro ⟨date, time⟩ x hx
    obtain rfl : x = ⟨date, time⟩ := hx.unique ⟨rfl, rfl, rfl⟩
    rfl
  withTimezoneLocal := by
    intro (x : Civil.DateTime)
    have hnext := x.instant_nextHour
    show x.nextHour.instant - 3600 * 1000000000 = x.instant
    omega

/-- Noon. -/
def noon : Civil.DateTime :=
  ⟨newYear 2024, ⟨12, 0, 0, 0, by decide, by decide, by decide, by decide⟩⟩

theorem isoUtc_noon : isoUtc (utcText noon).toList = some noon := by decide

theorem noon_utcText : Zones.civil.UtcText Crates.civilWriters noon where
  parse := ⟨noon, isoUtc_noon, rfl⟩
  trimmed := by decide

theorem noon_fixedText : Zones.civil.FixedText Crates.civilWriters noon where
  parse := ⟨noon, isoUtc_noon, rfl⟩
  trimmed := by decide

/-- In a zone without an offset. -/
theorem noon_agrees : LocalReadsAs Zones.civil Crates.civilWriters (noon, 0)
    (Zones.civil.localInstant (noon, 0) / 1000 * 1000) :=
  ((zones_agree_iff Crates.civil_chronoLaws Zones.civil_laws (noon, 0)
    ⟨by decide, by decide⟩ (by decide) noon_utcText (by decide) noon_fixedText (by decide)).2
    rfl).1

/-- Noon in a zone an hour ahead of UTC is read back an hour later. -/
theorem noon_read_an_hour_later :
    LocalReadsAs Zones.civil Crates.civilWriters (noon, 3600)
      (Zones.civil.localInstant (noon, 3600) + 3600 * 1000000000) ∧
    ¬ ∀ datetime, LocalReadsAs Zones.civil Crates.civilWriters datetime
      (Zones.civil.localInstant datetime / 1000 * 1000) := by
  have hread := localReadsAs_iff Crates.civil_chronoLaws Zones.civil_laws
    (noon, 3600) (x := noon) ⟨rfl, rfl, rfl⟩ ⟨by decide, by decide⟩
  refine ⟨(hread _).2 (by decide), fun hall ↦ ?_⟩
  have hsame := (hread _).1 (hall (noon, 3600))
  exact absurd hsame (by decide)

end MssqlOdbc
