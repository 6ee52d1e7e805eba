import EntityQuery.Proofs.Calendar.Days
import EntityQuery.Proofs.Calendar.Layout

/-! The text that an instant is written in, read back. From the year 0 to the year 9999 it is the zoned form of a civil
time in universal time, and it gives the instant in whole milliseconds. The text of any other year begins with a sign,
which no zoned time does, and ends in a zone, which no other form has. -/

namespace EntityQuery

namespace Instant

def IsLeap (t : Instant) : Prop :=
  nanosPerSecond ≤ t.nanos

structure IsProper (t : Instant) : Prop where
  nanos_lt : t.nanos < 2 * nanosPerSecond
  leap : t.IsLeap → t.seconds % 60 = 59

def truncated (t : Instant) : Instant :=
  { t with nanos := t.nanos / 1000000 * 1000000 }

def civil (t : Instant) : CivilTime :=
  ⟨t.date, t.secondOfDay / 3600, t.secondOfDay / 60 % 60, t.second, t.millis * 1000000⟩

end Instant

open Decimal Scan DateText

variable {cs rest : List Char} {c : CivilTime} {t : Instant} {offset : Int}

lemma CivilTime.isProper_of_instant? (h : c.instant? offset = some t) (hnanos : c.nanos < Instant.nanosPerSecond)
    (hoffset : offset % 60 = 0) : t.IsProper := by
  obtain ⟨hvalid, rfl⟩ := Option.ite_none_right_eq_some.mp h |>.imp_right Option.some.inj
  simp only [isValid, decide_eq_true_eq] at hvalid
  constructor
  · simp only [instant]
    split <;> omega
  · intro hleap
    simp only [Instant.IsLeap, instant, Instant.secondsPerDay] at hleap ⊢
    split at hleap <;> omega

namespace DateText

lemma offset?_mod (h : offset? cs = some (offset, rest)) : offset % 60 = 0 := by
  unfold offset? at h
  split at h
  · split at h
    · cases h
      rfl
    · obtain ⟨-, h⟩ := Option.ite_none_right_eq_some.mp h
      simp only [Option.bind_eq_bind, Option.bind_eq_some_iff, Prod.exists] at h
      obtain ⟨hours, _, -, _, -, minutes, _, -, h⟩ := h
      obtain ⟨-, h⟩ := Option.ite_none_left_eq_some.mp h
      cases h
      split <;> omega
  · cases h

lemma isProper_of_zoned? (h : zoned? cs = some t) : t.IsProper := by
  obtain ⟨c, year, sep, rest, hc, hyear, hcyear, hsep, rfl⟩ := exists_padded_of_zoned? h
  rw [zoned?_padded hc hyear hcyear hsep] at h
  obtain ⟨⟨nanos, zone⟩, hfraction, h⟩ := Option.bind_eq_some_iff.mp h
  obtain ⟨⟨offset, _⟩, hoffset, h⟩ := Option.bind_eq_some_iff.mp h
  obtain ⟨-, h⟩ := Option.ite_none_right_eq_some.mp h
  exact CivilTime.isProper_of_instant? h (fraction?_lt hfraction) (offset?_mod hoffset)

lemma isProper_of_local? (h : local? cs = some t) : t.IsProper := by
  simp only [local?, Option.bind_eq_bind, Option.bind_eq_some_iff, Prod.exists] at h
  obtain ⟨date, _, -, _, -, hour, _, -, _, -, minute, _, -, _, -, second, _, -, nanos, _, hfraction, h⟩ := h
  obtain ⟨-, h⟩ := Option.ite_none_right_eq_some.mp h
  exact CivilTime.isProper_of_instant? h (fraction?_lt hfraction) rfl

lemma isProper_of_bare? (h : bare? cs = some t) : t.IsProper := by
  obtain ⟨d, -, h⟩ := bare?_eq_some_iff.mp h
  exact CivilTime.isProper_of_instant? h (Nat.zero_lt_succ _) rfl

end DateText

namespace Instant

lemma isProper_of_ofText? {s : String} (h : ofText? s = some t) : t.IsProper := by
  have hform : zoned? s.toList = some t ∨ local? s.toList = some t ∨ bare? s.toList = some t := by
    cases hzoned : zoned? s.toList with
    | some u => exact .inl (by simpa [ofText?, hzoned] using h)
    | none => cases hlocal : local? s.toList with
      | some u => exact .inr (.inl (by simpa [ofText?, hzoned, hlocal] using h))
      | none => exact .inr (.inr (by simpa [ofText?, hzoned, hlocal] using h))
  rcases hform with hzoned | hlocal | hbare
  · exact isProper_of_zoned? hzoned
  · exact isProper_of_local? hlocal
  · exact isProper_of_bare? hbare

lemma secondOfDay_lt (t : Instant) : t.secondOfDay < 86400 := by
  simp only [secondOfDay, secondsPerDay]
  omega

lemma second_le (t : Instant) : t.second ≤ 60 := by
  simp only [second]
  split <;> omega

lemma millis_lt (t : Instant) : t.millis < 10 ^ 3 := by
  simp only [millis, nanosPerSecond]
  omega

lemma civil_inTwoDigits (t : Instant) : t.civil.InTwoDigits := by
  have hdate := Date.isProper_ofDays (t.seconds / secondsPerDay)
  have hsecond := t.secondOfDay_lt
  have hsecond' := t.second_le
  constructor
  · exact lt_of_le_of_lt hdate.month_le (by decide)
  · exact lt_of_le_of_lt (hdate.day_le.trans (Date.daysInMonth_le _ _)) (by decide)
  all_goals simp only [civil]; omega

lemma civil_isValid (hleast : Date.leastYear ≤ t.date.year) (hgreatest : t.date.year ≤ Date.greatestYear) :
    t.civil.isValid = true := by
  have hdate : t.date.isValid = true := Date.isValid_iff.mpr ⟨hleast, hgreatest, Date.isProper_ofDays _⟩
  have hsecond := t.secondOfDay_lt
  have hsecond' := t.second_le
  refine decide_eq_true ⟨hdate, ?_, ?_, hsecond'⟩
  · simp only [civil]
    omega
  · simp only [civil]
    omega

lemma IsProper.second_cases (h : t.IsProper) :
    t.IsLeap ∧ t.secondOfDay % 60 = 59 ∧ t.second = 60 ∨ ¬t.IsLeap ∧ t.second = t.secondOfDay % 60 := by
  by_cases hleap : t.IsLeap
  · have hlast : t.secondOfDay % 60 = 59 := by
      have := h.leap hleap
      simp only [secondOfDay, secondsPerDay]
      omega
    have hsecond : t.second = t.secondOfDay % 60 + 1 := congrArg _ (if_pos hleap)
    exact .inl ⟨hleap, hlast, by rw [hsecond, hlast]⟩
  · have hsecond : t.second = t.secondOfDay % 60 + 0 := congrArg _ (if_neg hleap)
    exact .inr ⟨hleap, hsecond⟩

lemma IsProper.civil_instant (h : t.IsProper) : t.civil.instant 0 = t.truncated := by
  have hdays : t.date.toDays = t.seconds / secondsPerDay := Date.toDays_ofDays _
  have hnanos := h.nanos_lt
  rcases h.second_cases with ⟨hleap, hlast, hsecond⟩ | ⟨hleap, hsecond⟩
  · simp only [CivilTime.instant, civil, truncated, hdays, hsecond, millis, mk.injEq, ↓reduceIte]
    simp only [secondOfDay, secondsPerDay, IsLeap, nanosPerSecond] at hnanos hleap hlast ⊢
    omega
  · have hne : t.secondOfDay % 60 ≠ 60 := by omega
    simp only [CivilTime.instant, civil, truncated, hdays, hne, millis, mk.injEq, ↓reduceIte, hsecond]
    simp only [secondOfDay, secondsPerDay, IsLeap, nanosPerSecond] at hnanos hleap ⊢
    omega

lemma toList_text (t : Instant) :
    t.text.toList = yearText t.date.year ++ afterYear 'T' t.civil ('.' :: (padded 3 t.millis ++ ['Z'])) := by
  simp [text, chars, afterYear, clock, civil]

lemma isFraction_millis (t : Instant) : IsFraction ('.' :: padded 3 t.millis) := by
  obtain ⟨d, ds, hds, -⟩ := exists_padded_eq_cons 3 t.millis
  exact .inr ⟨padded 3 t.millis, by simp [hds], isNumeral_padded 3 t.millis, rfl⟩

lemma nanosOf_millis (t : Instant) : nanosOf (padded 3 t.millis) = t.millis * 1000000 := by
  have hlen := length_padded (by decide) t.millis_lt
  have htake : (padded 3 t.millis).take 9 = padded 3 t.millis := List.take_of_length_le (by omega)
  rw [nanosOf, htake, hlen, ofDigits_padded]
  rfl

lemma fraction?_millis (t : Instant) :
    fraction? ('.' :: (padded 3 t.millis ++ ['Z'])) = some (t.millis * 1000000, ['Z']) := by
  rw [← nanosOf_millis]
  exact fraction?_append t.isFraction_millis (noDigitAhead_cons rfl []) (by decide)

lemma IsProper.ofText?_text (h : t.IsProper) (hyear : 0 ≤ t.date.year) (hyear' : t.date.year ≤ 9999) :
    ofText? t.text = some t.truncated := by
  have htext : t.text.toList = padded 4 t.date.year.toNat ++
      afterYear 'T' t.civil ('.' :: (padded 3 t.millis ++ ['Z'])) := by
    rw [toList_text, yearText, if_pos ⟨hyear, hyear'⟩]
  have hvalid : t.civil.isValid = true :=
    civil_isValid (le_trans (by decide) hyear) (le_trans hyear' (by decide))
  have hread : zoned? t.text.toList = some t.truncated := by
    rw [htext, zoned?_padded t.civil_inTwoDigits (by omega) (Int.toNat_of_nonneg hyear).symm (.inl rfl),
      fraction?_millis, ← h.civil_instant]
    exact if_pos hvalid
  simp only [ofText?, hread, Option.orElse_some]

lemma fits_text (hyear : 0 ≤ t.date.year) (hyear' : t.date.year ≤ 9999) :
    Fits "dddd-dd-ddTdd:dd:dd.dddZ" t.text.toList := by
  have hrest : List.Forall₂ FitsChar ('.' :: (List.replicate 3 'd' ++ ['Z'])) ('.' :: (padded 3 t.millis ++ ['Z'])) :=
    (forall₂_char_iff (by decide)).mpr ⟨_, rfl, (forall₂_padded_iff (by decide)).mpr
      ⟨t.millis, ['Z'], t.millis_lt, rfl, (forall₂_char_iff (by decide)).mpr ⟨[], rfl, .nil⟩⟩⟩
  rw [toList_text, yearText, if_pos ⟨hyear, hyear'⟩]
  exact forall₂_time_iff.mpr ⟨t.civil, t.date.year.toNat, _, t.civil_inTwoDigits, by omega,
    (Int.toNat_of_nonneg hyear).symm, rfl, hrest⟩

lemma ofText?_text_eq_none (hyear : ¬(0 ≤ t.date.year ∧ t.date.year ≤ 9999)) : ofText? t.text = none := by
  have hahead : NoDigitAhead (afterYear 'T' t.civil ('.' :: (padded 3 t.millis ++ ['Z']))) := noDigitAhead_cons rfl _
  obtain ⟨hminus, hplus⟩ := looseYear?_signed t.date.year.natAbs hahead
  have htext := t.toList_text
  rw [yearText, if_neg hyear, List.cons_append] at htext
  have hread : zoned? t.text.toList = none ∧ looseYear? t.text.toList =
      some (t.date.year, afterYear 'T' t.civil ('.' :: (padded 3 t.millis ++ ['Z']))) := by
    split at htext
    · rw [htext, hminus, zoned?_cons_of_not_digit rfl, Int.ofNat_natAbs_of_nonpos (by omega), Int.neg_neg]
      exact ⟨rfl, rfl⟩
    · rw [htext, hplus, zoned?_cons_of_not_digit rfl, Int.natAbs_of_nonneg (by omega)]
      exact ⟨rfl, rfl⟩
  obtain ⟨hzoned, hloose⟩ := hread
  have hlocal : local? t.text.toList = none := by
    rw [local?_of_looseYear? t.civil_inTwoDigits hloose, fraction?_millis]
    rfl
  have hbare : bare? t.text.toList = none := bare?_of_looseYear? t.civil_inTwoDigits hloose
  simp only [ofText?, hzoned, hlocal, hbare, Option.orElse_none]

lemma isLeap_truncated : t.truncated.IsLeap ↔ t.IsLeap := by
  simp only [IsLeap, truncated, nanosPerSecond]
  omega

lemma truncated_millis (t : Instant) : t.truncated.millis = t.millis := by
  simp only [millis, truncated, nanosPerSecond]
  omega

lemma truncated_second (t : Instant) : t.truncated.second = t.second := by
  have hday : t.truncated.secondOfDay = t.secondOfDay := rfl
  simp only [second, hday]
  exact congrArg _ (ite_congr (propext isLeap_truncated) (fun _ => rfl) fun _ => rfl)

lemma text_truncated (t : Instant) : t.truncated.text = t.text := by
  have hdate : t.truncated.date = t.date := rfl
  have hday : t.truncated.secondOfDay = t.secondOfDay := rfl
  simp only [text, chars, truncated_second, truncated_millis, hdate, hday]

theorem text_normalizes {s : String} (h : ofText? s = some t) :
    (0 ≤ t.date.year ∧ t.date.year ≤ 9999 →
      (Fits "dddd-dd-ddTdd:dd:dd.dddZ" t.text.toList ∧ t.text.length = 24) ∧
        (ofText? t.text = some t.truncated ∧ (t.truncated.IsLeap ↔ t.IsLeap)) ∧ t.truncated.text = t.text) ∧
    (¬(0 ≤ t.date.year ∧ t.date.year ≤ 9999) → ofText? t.text = none) := by
  refine ⟨fun ⟨hyear, hyear'⟩ => ?_, ofText?_text_eq_none⟩
  have hfits := fits_text hyear hyear'
  have hlen : t.text.length = 24 := by
    rw [← String.length_toList, ← hfits.length_eq]
    rfl
  exact ⟨⟨hfits, hlen⟩, ⟨(isProper_of_ofText? h).ofText?_text hyear hyear', isLeap_truncated⟩, text_truncated t⟩

theorem leap_second_normalizes :
    ofText? "2023-12-31 23:59:60.1239-00:30" = some ⟨1704068999, 1123900000⟩ ∧
    (⟨1704068999, 1123900000⟩ : Instant).text = "2024-01-01T00:29:60.123Z" ∧
    ofText? "2024-01-01T00:29:60.123Z" = some ⟨1704068999, 1123000000⟩ ∧
    ofText? "9999-12-31T23:30:00-01:00" = some ⟨253402302600, 0⟩ ∧
    (⟨253402302600, 0⟩ : Instant).text = "+10000-01-01T00:30:00.000Z" ∧
    ofText? "+10000-01-01T00:30:00.000Z" = none := by
  have hleap : ofText? "2023-12-31 23:59:60.1239-00:30" = some ⟨1704068999, 1123900000⟩ := by decide +kernel
  have hlate : ofText? "9999-12-31T23:30:00-01:00" = some ⟨253402302600, 0⟩ := by decide +kernel
  have htext : (⟨1704068999, 1123900000⟩ : Instant).text = "2024-01-01T00:29:60.123Z" := by decide +kernel
  have htext' : (⟨253402302600, 0⟩ : Instant).text = "+10000-01-01T00:30:00.000Z" := by decide +kernel
  obtain ⟨-, ⟨hread, -⟩, -⟩ := (text_normalizes hleap).1 (by decide +kernel)
  have hnone := (text_normalizes hlate).2 (by decide +kernel)
  rw [htext] at hread
  rw [htext'] at hnone
  exact ⟨hleap, htext, hread, hlate, htext', hnone⟩

end Instant

end EntityQuery
