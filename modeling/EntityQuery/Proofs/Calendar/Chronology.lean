import EntityQuery.Proofs.Calendar.Normalized

/-! The order of dates as texts. Of two instants in whole milliseconds the earlier one has the earlier civil time, and
of two civil times whose years have four digits the earlier one has the lesser text, so that texts compare as instants
do. -/

namespace EntityQuery

instance : LT CivilTime where
  lt c d := c.date < d.date ∨ c.date = d.date ∧ (c.hour < d.hour ∨ c.hour = d.hour ∧ (c.minute < d.minute ∨
    c.minute = d.minute ∧ (c.second < d.second ∨ c.second = d.second ∧ c.nanos < d.nanos)))

lemma CivilTime.lt_iff {c d : CivilTime} : c < d ↔ c.date < d.date ∨ c.date = d.date ∧ (c.hour < d.hour ∨
    c.hour = d.hour ∧ (c.minute < d.minute ∨ c.minute = d.minute ∧ (c.second < d.second ∨
      c.second = d.second ∧ c.nanos < d.nanos))) :=
  Iff.rfl

namespace Instant

open Decimal DateText

instance : LT Instant where
  lt t u := t.seconds < u.seconds ∨ t.seconds = u.seconds ∧ t.nanos < u.nanos

variable {t u : Instant}

lemma lt_iff : t < u ↔ t.seconds < u.seconds ∨ t.seconds = u.seconds ∧ t.nanos < u.nanos :=
  Iff.rfl

lemma lt_or_eq_or_gt (t u : Instant) : t < u ∨ t = u ∨ u < t := by
  obtain ⟨seconds, nanos⟩ := t
  obtain ⟨seconds', nanos'⟩ := u
  simp only [lt_iff, mk.injEq]
  omega

lemma not_lt_of_lt (h : t < u) : ¬u < t := by
  rw [lt_iff] at h ⊢
  omega

section Civil

variable (ht : t.IsProper) (hu : u.IsProper)
include ht hu

lemma civil_lt_of_seconds_lt (h : t.seconds < u.seconds) : t.civil < u.civil := by
  have hday : t.seconds / secondsPerDay ≤ u.seconds / secondsPerDay := Int.ediv_le_ediv (by decide) h.le
  rcases hday.lt_or_eq with hlt | heq
  · exact .inl (Date.ofDays_lt_ofDays hlt)
  · have hdate : t.civil.date = u.civil.date := by rw [civil, date, heq, civil, date]
    refine CivilTime.lt_iff.mpr (.inr ⟨hdate, ?_⟩)
    have hofDay : t.secondOfDay < u.secondOfDay := by
      simp only [secondOfDay, secondsPerDay] at heq ⊢
      omega
    -- within a minute the earlier second is no leap second, which would be the last one
    simp only [civil]
    rcases ht.second_cases with ⟨-, hlast, hsecond⟩ | ⟨-, hsecond⟩ <;>
      rcases hu.second_cases with ⟨-, hlast', hsecond'⟩ | ⟨-, hsecond'⟩ <;> omega

lemma civil_lt_of_nanos_lt (h : t.seconds = u.seconds) (hnanos : t.truncated.nanos < u.truncated.nanos) :
    t.civil < u.civil := by
  have hofDay : t.secondOfDay = u.secondOfDay := by rw [secondOfDay, h, secondOfDay]
  have hdate : t.civil.date = u.civil.date := by rw [civil, date, h, civil, date]
  have hhour : t.civil.hour = u.civil.hour := by rw [civil, hofDay, civil]
  have hminute : t.civil.minute = u.civil.minute := by rw [civil, hofDay, civil]
  refine CivilTime.lt_iff.mpr (.inr ⟨hdate, .inr ⟨hhour, .inr ⟨hminute, ?_⟩⟩⟩)
  have hlt := ht.nanos_lt
  have hlt' := hu.nanos_lt
  simp only [civil, truncated, millis, nanosPerSecond] at hnanos hlt hlt' ⊢
  rcases ht.second_cases with ⟨hleap, hlast, hsecond⟩ | ⟨hleap, hsecond⟩ <;>
    rcases hu.second_cases with ⟨hleap', hlast', hsecond'⟩ | ⟨hleap', hsecond'⟩ <;>
    simp only [IsLeap, nanosPerSecond] at hleap hleap' <;> omega

lemma civil_lt_civil (h : t.truncated < u.truncated) : t.civil < u.civil := by
  rcases lt_iff.mp h with hseconds | ⟨hseconds, hnanos⟩
  · exact civil_lt_of_seconds_lt ht hu hseconds
  · exact civil_lt_of_nanos_lt ht hu hseconds hnanos

end Civil

lemma text_lt_of_civil_lt (ht : 0 ≤ t.date.year ∧ t.date.year ≤ 9999) (hu : 0 ≤ u.date.year ∧ u.date.year ≤ 9999)
    (h : t.civil < u.civil) : t.text < u.text := by
  have htcivil := t.civil_inTwoDigits
  have hucivil := u.civil_inTwoDigits
  have htyear : t.date.year.toNat < 10 ^ 4 := by omega
  have huyear : u.date.year.toNat < 10 ^ 4 := by omega
  rw [String.lt_iff_toList_lt, toList_text, toList_text, yearText, yearText, if_pos ht, if_pos hu]
  simp only [afterYear, clock, List.cons_lt_cons_self, padded_append_lt_iff (by decide) htyear huyear,
    padded_append_lt_iff (by decide) htcivil.month hucivil.month,
    padded_append_lt_iff (by decide) htcivil.day hucivil.day,
    padded_append_lt_iff (by decide) htcivil.hour hucivil.hour,
    padded_append_lt_iff (by decide) htcivil.minute hucivil.minute,
    padded_append_lt_iff (by decide) htcivil.second hucivil.second,
    padded_append_lt_iff (by decide) t.millis_lt u.millis_lt, lt_irrefl, and_false, or_false]
  have hyear : t.civil.date.year = t.date.year := rfl
  have hyear' : u.civil.date.year = u.date.year := rfl
  rcases CivilTime.lt_iff.mp h with hdate | ⟨hdate, htime⟩
  · rw [Date.lt_iff] at hdate
    omega
  · have heq := congrArg Date.year hdate
    have hmonth := congrArg Date.month hdate
    have hday := congrArg Date.day hdate
    have hnanos : t.civil.nanos < u.civil.nanos → t.millis < u.millis := by
      simp only [civil]
      omega
    omega

/-- Texts of four-digit years compare as instants in whole milliseconds. -/
theorem text_lt_text_iff {r s : String} (ht : ofText? r = some t) (hu : ofText? s = some u)
    (htyear : 0 ≤ t.date.year ∧ t.date.year ≤ 9999) (huyear : 0 ≤ u.date.year ∧ u.date.year ≤ 9999) :
    (t.text < u.text ↔ t.truncated < u.truncated) ∧ (t.text = u.text ↔ t.truncated = u.truncated) := by
  have htproper := isProper_of_ofText? ht
  have huproper := isProper_of_ofText? hu
  rcases lt_or_eq_or_gt t.truncated u.truncated with hlt | heq | hgt
  · have htext := text_lt_of_civil_lt htyear huyear (civil_lt_civil htproper huproper hlt)
    refine ⟨iff_of_true htext hlt, iff_of_false htext.ne fun heq => ?_⟩
    exact not_lt_of_lt hlt (heq ▸ hlt)
  · have htext : t.text = u.text := by rw [← text_truncated t, heq, text_truncated]
    refine ⟨iff_of_false htext.not_lt fun hlt => ?_, iff_of_true htext heq⟩
    exact not_lt_of_lt hlt (heq ▸ hlt)
  · have htext := text_lt_of_civil_lt huyear htyear (civil_lt_civil huproper htproper hgt)
    refine ⟨iff_of_false htext.not_gt (not_lt_of_lt hgt), iff_of_false htext.ne' fun heq => ?_⟩
    exact not_lt_of_lt hgt (heq ▸ hgt)

theorem leap_second_between :
    ofText? "2016-12-31T23:59:60.9999+00:00" = some ⟨1483228799, 1999900000⟩ ∧
    ofText? "2017-01-01t01:00:00+01:00" = some ⟨1483228800, 0⟩ ∧ ofText? "2017-1-1" = some ⟨1483228800, 0⟩ ∧
    (⟨1483228799, 1999900000⟩ : Instant).text < (⟨1483228800, 0⟩ : Instant).text ∧
    ofText? "2016-12-31T 23:59:60.99900001" = some ⟨1483228799, 1999000010⟩ ∧
    (⟨1483228799, 1999900000⟩ : Instant).text = (⟨1483228799, 1999000010⟩ : Instant).text := by
  have hleap : ofText? "2016-12-31T23:59:60.9999+00:00" = some ⟨1483228799, 1999900000⟩ := by decide +kernel
  have hleap' : ofText? "2016-12-31T 23:59:60.99900001" = some ⟨1483228799, 1999000010⟩ := by decide +kernel
  have hnext : ofText? "2017-01-01t01:00:00+01:00" = some ⟨1483228800, 0⟩ := by decide +kernel
  have hlt := (text_lt_text_iff hleap hnext (by decide +kernel) (by decide +kernel)).1
  have heq := (text_lt_text_iff hleap hleap' (by decide +kernel) (by decide +kernel)).2
  exact ⟨hleap, hnext, by decide +kernel, hlt.mpr (.inl (by decide)), hleap', heq.mpr (by decide)⟩

end Instant

end EntityQuery
